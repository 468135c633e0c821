import TealTools.Proofs.Assembly.Mapping

/-!
# Lookups in a source map

The entries of an assembled program increase, so that a lookup can be said
without the search behind it.  The line of a program counter is that of the
last instruction that begins there or in front of it, and the program counters
of a line are where its instruction begins, if it has one.
-/

namespace TealTools

namespace SourceMap

/-- Program counters and lines increase together. -/
def Increasing (map : SourceMap) : Prop :=
  map.entries.Pairwise fun first second =>
    first.1 < second.1 ∧ first.2 < second.2

/-- The last entry that begins at a program counter or in front of it. -/
structure Covers (map : SourceMap) (entry : Nat × Nat) (pc : Nat) :
    Prop where
  listed : entry ∈ map.entries
  begun : entry.1 ≤ pc
  latest : ∀ other ∈ map.entries, other.1 ≤ pc → other.1 ≤ entry.1

/-- A point in front of which all entries have begun, and behind which none
has.  This is what a binary search for a program counter finds. -/
structure Divides (map : SourceMap) (pc point : Nat) : Prop where
  front : ∀ entry ∈ map.entries.take point, entry.1 ≤ pc
  back : ∀ entry ∈ map.entries.drop point, pc < entry.1

section

variable {map : SourceMap} {pc line point : Nat} {entry : Nat × Nat}

/-! ## From a program counter to a line -/

private theorem lineForPc?_of_divides (divides : map.Divides pc point) :
    map.lineForPc? pc = ((map.entries.take point).getLast?).map (·.2) := by
  have behind : (map.entries.drop point).takeWhile
      (fun entry => entry.1 ≤ pc) = [] := by
    cases rest : map.entries.drop point with
    | nil => rfl
    | cons next rest' =>
        have late : pc < next.1 := by
          apply divides.back
          rw [rest]
          exact List.mem_cons_self
        exact List.takeWhile_cons_of_neg (by simpa using late)
  have found : map.entries.takeWhile (fun entry => entry.1 ≤ pc) =
      map.entries.take point := by
    conv_lhs => rw [← List.take_append_drop point map.entries]
    rw [List.takeWhile_append_of_pos (by simpa using divides.front), behind,
      List.append_nil]
  rw [lineForPc?, found]

private theorem Increasing.exists_divides
    (increasing : map.Increasing) (pc : Nat) :
    ∃ point, map.Divides pc point := by
  unfold Increasing at increasing
  obtain ⟨entries⟩ := map
  induction entries with
  | nil => exact ⟨0, nofun, nofun⟩
  | cons first rest induction =>
      obtain ⟨before, later⟩ := List.pairwise_cons.mp increasing
      by_cases begun : first.1 ≤ pc
      · obtain ⟨point, front, back⟩ := induction later
        refine ⟨point + 1, ?_, back⟩
        intro entry member
        rcases List.mem_cons.mp member with rfl | deeper
        · exact begun
        · exact front entry deeper
      · refine ⟨0, nofun, ?_⟩
        intro entry member
        rcases List.mem_cons.mp member with rfl | deeper
        · exact Nat.lt_of_not_le begun
        · exact Nat.lt_trans (Nat.lt_of_not_le begun)
            (before entry deeper).1

private theorem Divides.mem_take (divides : map.Divides pc point)
    (listed : entry ∈ map.entries) (begun : entry.1 ≤ pc) :
    entry ∈ map.entries.take point := by
  rw [← List.take_append_drop point map.entries] at listed
  rcases List.mem_append.mp listed with front | back
  · exact front
  · exact absurd begun (Nat.not_le_of_lt (divides.back entry back))

theorem Increasing.entry_unique (increasing : map.Increasing)
    {first second : Nat × Nat} (one : first ∈ map.entries)
    (other : second ∈ map.entries) (same : first.1 = second.1) :
    first = second := by
  have starts : (map.entries.map (·.1)).Nodup :=
    List.pairwise_map.mpr (increasing.imp fun order => Nat.ne_of_lt order.1)
  exact List.inj_on_of_nodup_map starts one other same

theorem Increasing.covers_unique (increasing : map.Increasing)
    {first second : Nat × Nat} (one : map.Covers first pc)
    (other : map.Covers second pc) : first = second :=
  increasing.entry_unique one.listed other.listed
    (Nat.le_antisymm (other.latest first one.listed one.begun)
      (one.latest second other.listed other.begun))

private theorem Increasing.covers_of_getLast? (increasing : map.Increasing)
    (divides : map.Divides pc point)
    (last : (map.entries.take point).getLast? = some entry) :
    map.Covers entry pc := by
  obtain ⟨earlier, split⟩ := List.getLast?_eq_some_iff.mp last
  have own : entry ∈ map.entries.take point := by
    rw [split]
    exact List.mem_append_right _ List.mem_cons_self
  refine ⟨List.mem_of_mem_take own, divides.front entry own, ?_⟩
  intro other listed begun
  have front := divides.mem_take listed begun
  have ordered := increasing.sublist (List.take_sublist point map.entries)
  rw [split] at front ordered
  rcases List.mem_append.mp front with before | here
  · exact Nat.le_of_lt ((List.pairwise_append.mp ordered).2.2 other before
      entry List.mem_cons_self).1
  · rw [List.mem_singleton.mp here]

theorem Increasing.exists_covers (increasing : map.Increasing)
    (listed : entry ∈ map.entries) (begun : entry.1 ≤ pc) :
    ∃ other, map.Covers other pc := by
  obtain ⟨point, divides⟩ := increasing.exists_divides pc
  have front := divides.mem_take listed begun
  have last := List.getLast?_eq_some_getLast (List.ne_nil_of_mem front)
  exact ⟨_, increasing.covers_of_getLast? divides last⟩

/-- The line of a program counter is that of the instruction that covers
it. -/
theorem Increasing.lineForPc?_eq_some_iff (increasing : map.Increasing) :
    map.lineForPc? pc = some line ↔ ∃ start, map.Covers (start, line) pc := by
  obtain ⟨point, divides⟩ := increasing.exists_divides pc
  rw [lineForPc?_of_divides divides, Option.map_eq_some_iff]
  constructor
  · rintro ⟨⟨start, line⟩, last, rfl⟩
    exact ⟨start, increasing.covers_of_getLast? divides last⟩
  · rintro ⟨start, covers⟩
    have front := divides.mem_take covers.listed covers.begun
    have last := List.getLast?_eq_some_getLast (List.ne_nil_of_mem front)
    have same := increasing.covers_unique
      (increasing.covers_of_getLast? divides last) covers
    exact ⟨_, last, congrArg Prod.snd same⟩

theorem Increasing.isSome_lineForPc? (increasing : map.Increasing)
    (listed : entry ∈ map.entries) (begun : entry.1 ≤ pc) :
    ∃ line, map.lineForPc? pc = some line := by
  obtain ⟨⟨start, line⟩, covers⟩ := increasing.exists_covers listed begun
  exact ⟨line, increasing.lineForPc?_eq_some_iff.mpr ⟨start, covers⟩⟩

/-- A program counter has no line exactly in front of the first
instruction. -/
theorem Increasing.lineForPc?_eq_none_iff (increasing : map.Increasing) :
    map.lineForPc? pc = none ↔
      ∀ first ∈ map.entries.head?, pc < first.1 := by
  constructor
  · intro none first starts
    by_contra begun
    obtain ⟨line, found⟩ := increasing.isSome_lineForPc?
      (List.mem_of_mem_head? starts) (Nat.le_of_not_lt begun)
    rw [none] at found
    cases found
  · intro late
    rw [Option.eq_none_iff_forall_ne_some]
    intro line found
    obtain ⟨start, covers⟩ := increasing.lineForPc?_eq_some_iff.mp found
    have listed := covers.listed
    have begun := covers.begun
    -- No instruction begins in front of the first one.
    cases entries : map.entries with
    | nil =>
        rw [entries] at listed
        cases listed
    | cons first rest =>
        have ahead : pc < first.1 := late first (by rw [entries]; rfl)
        rw [Increasing, entries] at increasing
        rw [entries] at listed
        rcases List.mem_cons.mp listed with rfl | deeper
        · exact Nat.not_le_of_lt ahead begun
        · have before :=
            ((List.pairwise_cons.mp increasing).1 _ deeper).1
          simp only at before begun
          omega

theorem Increasing.lineForPc?_start (increasing : map.Increasing)
    (listed : (pc, line) ∈ map.entries) : map.lineForPc? pc = some line :=
  increasing.lineForPc?_eq_some_iff.mpr
    ⟨pc, listed, Nat.le_refl pc, fun _ _ begun => begun⟩

theorem Increasing.line_le_of_le (increasing : map.Increasing)
    {first second : Nat × Nat} (one : first ∈ map.entries)
    (other : second ∈ map.entries) (order : first.1 ≤ second.1) :
    first.2 ≤ second.2 := by
  obtain ⟨index, inside, rfl⟩ := List.getElem_of_mem one
  obtain ⟨place, within, rfl⟩ := List.getElem_of_mem other
  have ordered := List.pairwise_iff_getElem.mp increasing
  rcases Nat.lt_trichotomy index place with before | rfl | behind
  · exact Nat.le_of_lt (ordered _ _ inside within before).2
  · exact Nat.le_refl _
  · have descends := (ordered _ _ within inside behind).1
    omega

theorem Increasing.lineForPc?_mono (increasing : map.Increasing)
    {later : Nat} (order : pc ≤ later)
    (found : map.lineForPc? pc = some line) :
    ∃ next, map.lineForPc? later = some next ∧ line ≤ next := by
  obtain ⟨start, covers⟩ := increasing.lineForPc?_eq_some_iff.mp found
  have begun : start ≤ later := Nat.le_trans covers.begun order
  obtain ⟨⟨other, next⟩, reaches⟩ :=
    increasing.exists_covers covers.listed begun
  refine ⟨next, increasing.lineForPc?_eq_some_iff.mpr ⟨other, reaches⟩, ?_⟩
  exact increasing.line_le_of_le covers.listed reaches.listed
    (reaches.latest _ covers.listed begun)

/-! ## From a line to program counters -/

theorem mem_pcsForLine_iff :
    pc ∈ map.pcsForLine line ↔ (pc, line) ∈ map.entries := by
  simp [pcsForLine]

theorem pcsForLine_ne_nil_iff :
    map.pcsForLine line ≠ [] ↔ ∃ pc, (pc, line) ∈ map.entries := by
  rw [ne_eq, List.eq_nil_iff_forall_not_mem, not_forall_not]
  simp only [mem_pcsForLine_iff]

theorem Increasing.length_pcsForLine_le (increasing : map.Increasing)
    (line : Nat) : (map.pcsForLine line).length ≤ 1 := by
  have ordered := List.Pairwise.filter
    (fun entry : Nat × Nat => decide (entry.2 = line)) increasing
  have own : ∀ entry ∈ map.entries.filter fun entry => entry.2 = line,
      entry.2 = line := by
    intro entry member
    simpa using (List.mem_filter.mp member).2
  rw [pcsForLine, List.length_map]
  cases found : map.entries.filter fun entry => entry.2 = line with
  | nil => exact Nat.zero_le 1
  | cons first rest =>
      cases rest with
      | nil => exact Nat.le_refl 1
      | cons second rest =>
          rw [found] at ordered own
          have apart :=
            (List.pairwise_cons.mp ordered).1 second List.mem_cons_self
          have here := own first List.mem_cons_self
          have there := own second
            (List.mem_cons_of_mem first List.mem_cons_self)
          omega

theorem Increasing.mem_pcsForLine_iff_start (increasing : map.Increasing) :
    pc ∈ map.pcsForLine line ↔
      (∃ other, (pc, other) ∈ map.entries) ∧
        map.lineForPc? pc = some line := by
  rw [mem_pcsForLine_iff]
  constructor
  · intro listed
    exact ⟨⟨line, listed⟩, increasing.lineForPc?_start listed⟩
  · rintro ⟨⟨other, listed⟩, found⟩
    rw [increasing.lineForPc?_start listed, Option.some.injEq] at found
    exact found ▸ listed

theorem Increasing.pcsForLine_ne_nil_iff_line (increasing : map.Increasing) :
    map.pcsForLine line ≠ [] ↔ ∃ pc, map.lineForPc? pc = some line := by
  rw [pcsForLine_ne_nil_iff]
  constructor
  · rintro ⟨pc, listed⟩
    exact ⟨pc, increasing.lineForPc?_start listed⟩
  · rintro ⟨pc, found⟩
    obtain ⟨start, covers⟩ := increasing.lineForPc?_eq_some_iff.mp found
    exact ⟨start, covers.listed⟩

end

/-- What lookups answer, said by the entries of the map. -/
structure Consistent (map : SourceMap) : Prop where
  line : ∀ pc line, map.lineForPc? pc = some line ↔
    ∃ start, map.Covers (start, line) pc
  noLine : ∀ pc, map.lineForPc? pc = none ↔
    ∀ first ∈ map.entries.head?, pc < first.1
  /-- Any search for the point that divides the entries finds the line. -/
  searched : ∀ pc, (∃ point, map.Divides pc point) ∧
    ∀ point, map.Divides pc point →
      map.lineForPc? pc = ((map.entries.take point).getLast?).map (·.2)
  monotone : ∀ pc later line, pc ≤ later →
    map.lineForPc? pc = some line →
    ∃ next, map.lineForPc? later = some next ∧ line ≤ next
  single : ∀ line, (map.pcsForLine line).length ≤ 1
  starts : ∀ pc line, pc ∈ map.pcsForLine line ↔
    (∃ other, (pc, other) ∈ map.entries) ∧ map.lineForPc? pc = some line
  occupied : ∀ line, map.pcsForLine line ≠ [] ↔
    ∃ pc, map.lineForPc? pc = some line

theorem Increasing.consistent {map : SourceMap}
    (increasing : map.Increasing) : map.Consistent where
  line _ _ := increasing.lineForPc?_eq_some_iff
  noLine _ := increasing.lineForPc?_eq_none_iff
  searched pc :=
    ⟨increasing.exists_divides pc, fun _ => lineForPc?_of_divides⟩
  monotone _ _ _ := increasing.lineForPc?_mono
  single := increasing.length_pcsForLine_le
  starts _ _ := increasing.mem_pcsForLine_iff_start
  occupied _ := increasing.pcsForLine_ne_nil_iff_line

end SourceMap

namespace Assembly

section

variable {source : String}

theorem increasing_sourceMap (source : String) :
    (assemble source).sourceMap.Increasing :=
  entries_ordered

/-- A line is listed if an instruction is accepted on it. -/
theorem exists_entry_iff {number : Nat} :
    (∃ pc, (pc, number) ∈ (assemble source).sourceMap.entries) ↔
      ∃ text instruction, sourceLine? source number = some text ∧
        HoldsInstruction text instruction := by
  constructor
  · rintro ⟨pc, listed⟩
    obtain ⟨item, member, -, rfl⟩ := mem_entries_iff.mp listed
    obtain ⟨text, line, holds⟩ := holds_of_mem_program member
    exact ⟨text, item.instruction, line, holds⟩
  · rintro ⟨text, instruction, line, holds⟩
    obtain ⟨item, member, rfl⟩ := exists_program_of_holds line holds
    exact ⟨_, mem_entries_iff.mpr ⟨item, member, rfl, rfl⟩⟩

/-- Instructions do not overlap. -/
private theorem apart_emittedFrom (offset line : Nat)
    (readings : List (Reading Statement)) :
    (emittedFrom offset line readings).Pairwise fun first second =>
      first.base ≤ second.offset := by
  induction readings generalizing offset line with
  | nil => exact .nil
  | cons reading readings induction =>
      rw [emittedFrom]
      split
      · exact induction offset (line + 1)
      · refine .cons ?_ (induction _ _)
        intro item member
        obtain ⟨_, _, _, _, _, _, place⟩ := mem_emittedFrom member
        rw [place]
        exact Nat.le_add_right _ _

theorem covers_of_mem_program {item : Emitted} (member : item ∈ program source)
    {byte : Nat} (inside : byte < item.instruction.size) :
    (assemble source).sourceMap.Covers (1 + item.offset, item.line)
      (1 + item.offset + byte) := by
  refine ⟨mem_entries_iff.mpr ⟨item, member, rfl, rfl⟩,
    Nat.le_add_right _ _, ?_⟩
  rintro ⟨pc, number⟩ listed begun
  obtain ⟨other, present, rfl, rfl⟩ := mem_entries_iff.mp listed
  obtain ⟨index, within, rfl⟩ := List.getElem_of_mem member
  obtain ⟨place, here, rfl⟩ := List.getElem_of_mem present
  have apart := List.pairwise_iff_getElem.mp
    (apart_emittedFrom 0 1 (readings source))
  rcases Nat.lt_trichotomy index place with before | rfl | behind
  · have later := apart _ _ within here before
    simp only [Emitted.base, program] at later begun inside ⊢
    omega
  · exact Nat.le_refl _
  · have earlier := apart _ _ here within behind
    simp only [Emitted.base, program] at earlier begun inside ⊢
    omega

end

/-- Lookups in the map of a source text follow its instructions: every byte of
an instruction leads to its line, and a line to the byte at which its
instruction begins. -/
theorem lookups_follow_instructions (source : String) :
    (assemble source).sourceMap.Consistent ∧
      (∀ number,
        (∃ pc, (pc, number) ∈ (assemble source).sourceMap.entries) ↔
          ∃ text instruction, sourceLine? source number = some text ∧
            HoldsInstruction text instruction) ∧
      ∀ pc number, (pc, number) ∈ (assemble source).sourceMap.entries →
        ∃ text instruction, sourceLine? source number = some text ∧
          HoldsInstruction text instruction ∧
          ∀ (offsets : At String → Int16) (byte : Nat),
            byte < (instruction.map offsets).encode.length →
            (assemble source).sourceMap.lineForPc? (pc + byte) =
              some number := by
  refine ⟨(increasing_sourceMap source).consistent,
    fun _ => exists_entry_iff, ?_⟩
  intro pc number listed
  obtain ⟨item, member, rfl, rfl⟩ := mem_entries_iff.mp listed
  obtain ⟨text, line, holds⟩ := holds_of_mem_program member
  refine ⟨text, item.instruction, line, holds, ?_⟩
  intro offsets byte inside
  rw [Instruction.length_encode_map] at inside
  exact (increasing_sourceMap source).lineForPc?_eq_some_iff.mpr
    ⟨_, covers_of_mem_program member inside⟩

end Assembly

end TealTools

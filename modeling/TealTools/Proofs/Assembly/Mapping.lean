import Mathlib.Data.List.Nodup
import TealTools.Proofs.Assembly.RoundTrip

/-!
# What the source map lists

The source map has one entry for every line whose instruction is accepted, and
none for any other line, whether the program fails or not.  Entries follow one
another without a gap.  A line that is refused leaves no trace in the first
pass, and labels that cannot be resolved leave the source map as it is.
-/

namespace TealTools.Assembly

/-- The line has an instruction behind its label, if it has one, and that
instruction is read without a fault. -/
inductive HoldsInstruction (text : List Char)
    (instruction : Instruction (At String)) : Prop where
  | mk {tokens arguments : List Token} {operation : Token} {name : String} :
      Token.scan text = .ok tokens →
      BehindLabel tokens (operation :: arguments) →
      operation.word? = some name →
      name.toList.head? ≠ some '#' →
      readInstruction ⟨operation.column, name⟩ arguments = .ok instruction →
      HoldsInstruction text instruction

/-- What the first pass has written, before any branch is resolved. -/
structure FirstPass where
  code : Bytes
  /-- The offset and the line of every instruction. -/
  instructions : List (Nat × Nat)
  references : List Reference
  deriving DecidableEq, Repr

/-- The first pass over lines. -/
def firstPass (lines : List (List Char)) : FirstPass :=
  let items := emitted (layout lines).2
  { code := draftCode items
    instructions := items.map fun item => (item.offset, item.line)
    references := references items }

/-! ## Lines -/

private theorem behindLabel_unique {tokens first second : List Token}
    (one : BehindLabel tokens first) (other : BehindLabel tokens second) :
    first = second := by
  cases one with
  | labelled word =>
      cases other with
      | labelled _ => rfl
      | plain unlabelled => exact (unlabelled _ word).elim
  | plain unlabelled =>
      cases other with
      | labelled word => exact (unlabelled _ word).elim
      | plain _ => rfl

private theorem readBody_eq_instruction_iff {operation : Token}
    {arguments : List Token} {instruction : Instruction (At String)} :
    readBody (operation :: arguments) = .instruction (.ok instruction) ↔
      ∃ name, operation.word? = some name ∧ name.toList.head? ≠ some '#' ∧
        readInstruction ⟨operation.column, name⟩ arguments =
          .ok instruction := by
  cases kind : operation.kind with
  | literal bytes => simp [readBody, Token.word?, kind]
  | word name =>
      by_cases directive : name.toList.head? = some '#'
      · simp [readBody, Token.word?, kind, directive]
      · simp [readBody, Token.word?, kind, directive]

theorem accepted?_ok_iff {statement : Statement}
    {instruction : Instruction (At String)} :
    accepted? (.ok statement) = some instruction ↔
      statement.body = .instruction (.ok instruction) := by
  unfold accepted?
  split
  · rename_i same
    cases same
    simp
  · rename_i other
    constructor
    · nofun
    · intro body
      exact (other statement.label instruction (by rw [← body])).elim

/-- A line adds the instruction that it holds. -/
@[simp] theorem accepted?_readLine_iff {text : List Char}
    {instruction : Instruction (At String)} :
    accepted? (readLine text) = some instruction ↔
      HoldsInstruction text instruction := by
  constructor
  · intro accepted
    cases scanned : Token.scan text with
    | error fault =>
        rw [readLine, scanned] at accepted
        cases accepted
    | ok tokens =>
        rw [readLine, scanned] at accepted
        have body := accepted?_ok_iff.mp accepted
        cases tokens with
        | nil => cases body
        | cons token tokens =>
            obtain ⟨behind, label, same⟩ := body_readStatement token tokens
            rw [same] at body
            cases behind with
            | nil => cases body
            | cons operation arguments =>
                obtain ⟨name, word, noDirective, read⟩ :=
                  readBody_eq_instruction_iff.mp body
                exact .mk scanned label word noDirective read
  · rintro ⟨scanned, label, word, noDirective, read⟩
    rename_i tokens arguments operation name
    have body : readBody (operation :: arguments) =
        .instruction (.ok instruction) :=
      readBody_eq_instruction_iff.mpr ⟨name, word, noDirective, read⟩
    rw [readLine, scanned]
    apply accepted?_ok_iff.mpr
    cases tokens with
    | nil => cases label
    | cons token tokens =>
        obtain ⟨behind, own, same⟩ := body_readStatement token tokens
        rw [same, behindLabel_unique own label, body]

/-! ## The first pass -/

theorem firstPass_eq (lines : List (List Char)) :
    firstPass lines =
      { code := draftCode (emittedFrom 0 1 (lines.map readLine))
        instructions := (emittedFrom 0 1 (lines.map readLine)).map
          fun item => (item.offset, item.line)
        references := references (emittedFrom 0 1 (lines.map readLine)) } := by
  have items : emitted (layout lines).2 =
      emittedFrom 0 1 (lines.map readLine) :=
    emitted_placeAll Site.start 1 (lines.map readLine)
  rw [firstPass, items]

/-- A line without an accepted instruction leaves the first pass as it was. -/
theorem firstPass_of_refused {text : List Char}
    (refused : ∀ instruction, ¬ HoldsInstruction text instruction)
    (front : List (List Char)) :
    firstPass (front ++ [text]) = firstPass front := by
  have nothing : accepted? (readLine text) = none := by
    rw [Option.eq_none_iff_forall_ne_some]
    exact fun instruction accepted =>
      refused instruction (accepted?_readLine_iff.mp accepted)
  have same : emittedFrom 0 1 ((front ++ [text]).map readLine) =
      emittedFrom 0 1 (front.map readLine) := by
    rw [List.map_append, emittedFrom_append]
    simp only [List.map_cons, List.map_nil, emittedFrom, nothing,
      List.append_nil]
  rw [firstPass_eq, firstPass_eq, same]

/-! ## Entries -/

theorem size_pos {target : Type}
    (instruction : Instruction target) : 0 < instruction.size := by
  rw [Instruction.size, Instruction.draft_eq, List.length_cons]
  exact Nat.succ_pos _

private theorem ordered_emittedFrom (offset line : Nat)
    (readings : List (Reading Statement)) :
    (emittedFrom offset line readings).Pairwise fun first second =>
      first.offset < second.offset ∧ first.line < second.line := by
  induction readings generalizing offset line with
  | nil => exact .nil
  | cons reading readings induction =>
      rw [emittedFrom]
      split
      · exact induction offset (line + 1)
      · rename_i instruction _
        refine .cons ?_ (induction _ _)
        intro item member
        obtain ⟨front, _, _, _, _, numbered, place⟩ := mem_emittedFrom member
        have := size_pos instruction
        simp only
        omega

private theorem next_emittedFrom {offset line index : Nat}
    {readings : List (Reading Statement)} {item next : Emitted}
    (here : (emittedFrom offset line readings)[index]? = some item)
    (there : (emittedFrom offset line readings)[index + 1]? = some next) :
    next.offset = item.base := by
  induction readings generalizing offset line index with
  | nil => cases here
  | cons reading readings induction =>
      rw [emittedFrom] at here there
      cases found : accepted? reading with
      | none =>
          simp only [found] at here there
          exact induction here there
      | some instruction =>
          simp only [found, List.getElem?_cons_succ] at here there
          cases index with
          | zero =>
              -- The next item is the first one of what follows this line.
              cases here
              obtain ⟨more, starts⟩ := List.head?_eq_some_iff.mp
                (List.head?_eq_getElem? ▸ there)
              exact offset_head_emittedFrom starts
          | succ index =>
              rw [List.getElem?_cons_succ] at here
              exact induction here there

section

variable {source : String}

theorem mem_entries_iff {pc number : Nat} :
    (pc, number) ∈ (assemble source).sourceMap.entries ↔
      ∃ item ∈ program source, 1 + item.offset = pc ∧ item.line = number := by
  rw [sourceMap_assemble, List.mem_map]
  simp only [Prod.mk.injEq]

theorem holds_of_mem_program {item : Emitted}
    (member : item ∈ program source) :
    ∃ text, sourceLine? source item.line = some text ∧
      HoldsInstruction text item.instruction := by
  obtain ⟨front, reading, back, split, accepted, numbered, _⟩ :=
    mem_emittedFrom member
  obtain ⟨text, here, rfl⟩ := sourceLine?_of_readings split
  refine ⟨text, ?_, accepted?_readLine_iff.mp accepted⟩
  rw [numbered, Nat.add_comm]
  exact here

theorem readings_of_sourceLine? {number : Nat} {text : List Char}
    (line : sourceLine? source number = some text) :
    ∃ front back, readings source = front ++ readLine text :: back ∧
      number = 1 + front.length := by
  cases number with
  | zero => cases line
  | succ index =>
      obtain ⟨inside, here⟩ := List.getElem?_eq_some_iff.mp line
      have split := List.take_append_drop index (Text.lines source.toList)
      rw [List.drop_eq_getElem_cons inside, here] at split
      refine ⟨((Text.lines source.toList).take index).map readLine,
        ((Text.lines source.toList).drop (index + 1)).map readLine, ?_, ?_⟩
      · rw [readings, ← List.map_cons, ← List.map_append, split]
      · rw [List.length_map, List.length_take]
        omega

theorem exists_program_of_holds {number : Nat} {text : List Char}
    {instruction : Instruction (At String)}
    (line : sourceLine? source number = some text)
    (holds : HoldsInstruction text instruction) :
    ∃ item ∈ program source, item.line = number := by
  obtain ⟨front, back, split, numbered⟩ := readings_of_sourceLine? line
  have accepted := accepted?_readLine_iff.mpr holds
  rw [program, split, emittedFrom_append, emittedFrom, accepted, numbered]
  exact ⟨_, List.mem_append_right _ List.mem_cons_self, rfl⟩

theorem entries_ordered :
    (assemble source).sourceMap.entries.Pairwise fun first second =>
      first.1 < second.1 ∧ first.2 < second.2 := by
  rw [sourceMap_assemble, List.pairwise_map]
  apply (ordered_emittedFrom 0 1 (readings source)).imp
  intro first second order
  exact ⟨Nat.add_lt_add_left order.1 1, order.2⟩

theorem unique_entry {pc other number : Nat}
    (here : (pc, number) ∈ (assemble source).sourceMap.entries)
    (there : (other, number) ∈ (assemble source).sourceMap.entries) :
    pc = other := by
  have lines : ((assemble source).sourceMap.entries.map (·.2)).Nodup :=
    List.pairwise_map.mpr
      (entries_ordered.imp fun order => Nat.ne_of_lt order.2)
  exact (Prod.mk.inj (List.inj_on_of_nodup_map lines here there rfl)).1

theorem first_entry {entry : Nat × Nat}
    (first : (assemble source).sourceMap.entries.head? = some entry) :
    entry.1 = 1 := by
  rw [sourceMap_assemble, List.head?_map, Option.map_eq_some_iff] at first
  obtain ⟨item, starts, rfl⟩ := first
  obtain ⟨more, whole⟩ := List.head?_eq_some_iff.mp starts
  have place := offset_head_emittedFrom whole
  simp only
  omega

/-- Each instruction begins where the one before it ends, however its targets
are resolved. -/
theorem next_entry {index : Nat} {entry next : Nat × Nat}
    (here : (assemble source).sourceMap.entries[index]? = some entry)
    (there : (assemble source).sourceMap.entries[index + 1]? = some next) :
    ∃ text instruction, sourceLine? source entry.2 = some text ∧
      HoldsInstruction text instruction ∧
      ∀ offsets : At String → Int16,
        next.1 = entry.1 + (instruction.map offsets).encode.length := by
  rw [sourceMap_assemble, List.getElem?_map,
    Option.map_eq_some_iff] at here there
  obtain ⟨item, own, rfl⟩ := here
  obtain ⟨following, behind, rfl⟩ := there
  obtain ⟨text, line, holds⟩ := holds_of_mem_program
    (List.mem_of_getElem? own)
  refine ⟨text, item.instruction, line, holds, ?_⟩
  intro offsets
  have place := next_emittedFrom own behind
  simp only [Instruction.length_encode_map, Emitted.base] at place ⊢
  omega

end

/-- The source map lists the lines whose instruction is accepted, each once and
in order, from program counter one on and without gaps.  A line that is refused
changes nothing in the first pass, and the map is that of the first pass,
whatever the labels are that branches are resolved against. -/
theorem sourceMap_lists_accepted_lines (source : String) :
    (∀ number text instruction, sourceLine? source number = some text →
        HoldsInstruction text instruction →
        ∃! pc, (pc, number) ∈ (assemble source).sourceMap.entries) ∧
      (∀ pc number, (pc, number) ∈ (assemble source).sourceMap.entries →
        ∃ text instruction, sourceLine? source number = some text ∧
          HoldsInstruction text instruction) ∧
      ((assemble source).sourceMap.entries.Pairwise fun first second =>
        first.1 < second.1 ∧ first.2 < second.2) ∧
      (∀ entry, (assemble source).sourceMap.entries.head? = some entry →
        entry.1 = 1) ∧
      (∀ index entry next,
        (assemble source).sourceMap.entries[index]? = some entry →
        (assemble source).sourceMap.entries[index + 1]? = some next →
        ∃ text instruction, sourceLine? source entry.2 = some text ∧
          HoldsInstruction text instruction ∧
          ∀ offsets : At String → Int16,
            next.1 = entry.1 + (instruction.map offsets).encode.length) ∧
      (∀ front text, (∀ instruction, ¬ HoldsInstruction text instruction) →
        firstPass (front ++ [text]) = firstPass front) ∧
      (assemble source).sourceMap.entries =
        (firstPass (Text.lines source.toList)).instructions.map
          (fun (offset, line) => (1 + offset, line)) ∧
      ∀ labels, (ofLayout { lastSite source with labels := labels }
        (placedLines source)).sourceMap = (assemble source).sourceMap := by
  refine ⟨?_, ?_, entries_ordered, fun _ => first_entry,
    fun _ _ _ => next_entry, fun front _ refused =>
      firstPass_of_refused refused front, ?_, fun _ => rfl⟩
  · intro number text instruction line holds
    obtain ⟨item, member, rfl⟩ := exists_program_of_holds line holds
    have listed : (1 + item.offset, item.line) ∈
        (assemble source).sourceMap.entries :=
      mem_entries_iff.mpr ⟨item, member, rfl, rfl⟩
    exact ⟨_, listed, fun other also => unique_entry also listed⟩
  · intro pc number member
    obtain ⟨item, listed, _, rfl⟩ := mem_entries_iff.mp member
    obtain ⟨text, line, holds⟩ := holds_of_mem_program listed
    exact ⟨text, item.instruction, line, holds⟩
  · rw [sourceMap_assemble, firstPass_eq, List.map_map]
    rfl

/-- The second line is refused at its last target, and the label that the third
line names is not defined. -/
def refusedSource : String :=
  "int 1\nswitch a \"b\"\nbnz nowhere\npop"

theorem sourceMap_lists_accepted_lines_refusedSource :
    (assemble refusedSource).sourceMap.entries = [(1, 1), (3, 3), (6, 4)] ∧
      (∃ text instruction, sourceLine? refusedSource 3 = some text ∧
        HoldsInstruction text instruction ∧
        ∀ offsets : At String → Int16,
          6 = 3 + (instruction.map offsets).encode.length) ∧
      firstPass ["int 1".toList, "switch a \"b\"".toList] =
        firstPass ["int 1".toList] := by
  have entries : (assemble refusedSource).sourceMap.entries =
      [(1, 1), (3, 3), (6, 4)] := by
    decide +kernel
  have refused : ∀ instruction,
      ¬ HoldsInstruction "switch a \"b\"".toList instruction := by
    intro instruction holds
    have nothing : accepted? (readLine "switch a \"b\"".toList) = none := by
      decide +kernel
    rw [accepted?_readLine_iff.mpr holds] at nothing
    cases nothing
  obtain ⟨_, _, _, _, next, atomic, _, _⟩ :=
    sourceMap_lists_accepted_lines refusedSource
  refine ⟨entries, ?_, atomic ["int 1".toList] _ refused⟩
  exact next 1 (3, 3) (6, 4) (by rw [entries]; rfl) (by rw [entries]; rfl)

end TealTools.Assembly

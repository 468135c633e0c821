import TealTools.Proofs.Assembly.Labels
import TealTools.Proofs.Assembly.Slots

/-!
# Branches

Code can be written in two passes: first every instruction with empty slots
for its targets, and then an offset into each slot.  The slots lie apart from
one another, each inside its own instruction, and an offset leads from the end
of that instruction to where the label is defined.
-/

namespace TealTools.Assembly

/-- A target whose offset is still to be written. -/
structure Reference where
  target : At String
  line : Nat
  /-- Where its instruction begins. -/
  start : Nat
  /-- Where its instruction ends, and offsets count from. -/
  base : Nat
  /-- Where its offset is written. -/
  slot : Nat
  deriving DecidableEq, Repr

def Emitted.references (item : Emitted) : List Reference :=
  item.instruction.slots.map fun (place, target) =>
    { target
      line := item.line
      start := item.offset
      base := item.base
      slot := item.offset + place }

/-- The targets of all instructions, in encoding order. -/
def references (items : List Emitted) : List Reference :=
  items.flatMap Emitted.references

/-- Writes the offset of a target if there is one. -/
def Reference.resolve (labels : List (String × Nat)) (code : Bytes)
    (reference : Reference) : Bytes :=
  match branchOffset labels reference.base reference.target.value with
  | .ok offset => writeOffset code reference.slot offset
  | .error _ => code

/-- The second pass over the code. -/
def resolveAll (labels : List (String × Nat)) (references : List Reference)
    (code : Bytes) : Bytes :=
  references.foldl (Reference.resolve labels) code

/-- A slot and its offset, which is zero if the target is out of reach. -/
def Reference.content (labels : List (String × Nat))
    (reference : Reference) : Nat × Int16 :=
  (reference.slot,
    (branchOffset labels reference.base
      reference.target.value).toOption.getD 0)

/-! ## The second pass -/

private theorem map_content_references (labels : List (String × Nat))
    (item : Emitted) :
    item.references.map (Reference.content labels) =
      shift item.offset
        (item.instruction.map fun target =>
          (branchOffset labels item.base
            target.value).toOption.getD 0).slots := by
  rw [Instruction.slots_map, shift, Emitted.references, List.map_map,
    List.map_map]
  rfl

private theorem filled_append_emittedFrom (labels : List (String × Nat))
    {slots : List (Nat × Int16)} {draft bytes : Bytes} (line : Nat)
    (readings : List (Reading Statement)) (front : Filled slots draft bytes) :
    Filled
      (slots ++ (references (emittedFrom draft.length line readings)).map
        (Reference.content labels))
      (draft ++ draftCode (emittedFrom draft.length line readings))
      (bytes ++ (emittedFrom draft.length line readings).flatMap
        (Emitted.encode labels)) := by
  -- The code so far is carried along, since its length is the next offset.
  induction readings generalizing slots draft bytes line with
  | nil =>
      simp only [emittedFrom, references, draftCode, List.flatMap_nil,
        List.map_nil, List.append_nil]
      exact front
  | cons reading readings induction =>
      rw [emittedFrom]
      cases accepted? reading with
      | none => exact induction (line + 1) front
      | some instruction =>
          let item : Emitted := ⟨draft.length, line, instruction⟩
          have own := (instruction.map fun target =>
            (branchOffset labels item.base
              target.value).toOption.getD 0).filled
          have next := front.append own
          rw [← map_content_references labels item,
            Instruction.draft_map] at next
          have size : (draft ++ instruction.draft).length =
              draft.length + instruction.size := List.length_append
          have rest := induction (line + 1) next
          rw [size] at rest
          simp only [references, draftCode, List.flatMap_cons,
            List.map_append, List.append_assoc] at rest ⊢
          exact rest

/-- The code of a program is its draft with every slot written. -/
theorem filled_program (source : String) :
    Filled
      ((references (program source)).map
        (Reference.content (lastSite source).labels))
      (draftCode (program source)) (code source) := by
  rw [code_eq]
  have whole := filled_append_emittedFrom (lastSite source).labels 1
    (readings source) (.none [])
  rw [List.length_nil, List.nil_append, List.nil_append,
    List.nil_append] at whole
  exact whole

private theorem resolveAll_of_filled {labels : List (String × Nat)}
    {references : List Reference} {draft bytes : Bytes}
    (filled : Filled (references.map (Reference.content labels)) draft bytes) :
    resolveAll labels references draft = bytes := by
  induction references generalizing draft with
  | nil => exact filled.eq_of_nil.symm
  | cons reference references induction =>
      rw [resolveAll, List.foldl_cons, Reference.resolve]
      rw [List.map_cons, Reference.content] at filled
      cases resolved : branchOffset labels reference.base
          reference.target.value with
      | ok offset =>
          rw [resolved] at filled
          exact induction filled.writeOffset
      | error fault =>
          rw [resolved] at filled
          exact induction filled.skipZero

/-! ## Places -/

theorem base_of_mem_program {source : String} {item : Emitted}
    (member : item ∈ program source) :
    ∃ front back, readings source = front ++ back ∧
      item.line = front.length ∧
      item.base = (draftCode (emittedFrom 0 1 front)).length := by
  obtain ⟨front, reading, back, split, accepted, numbered, place⟩ :=
    mem_emittedFrom member
  refine ⟨front ++ [reading], back, ?_, ?_, ?_⟩
  · rw [split, List.append_assoc, List.singleton_append]
  · rw [numbered, List.length_append, List.length_singleton, Nat.add_comm]
  · rw [emittedFrom_append, emittedFrom_singleton accepted, Emitted.base,
      place]
    simp [draftCode, Instruction.size]

theorem pcFrom_line_succ {source : String} {item : Emitted}
    (member : item ∈ program source) :
    (assemble source).sourceMap.pcFrom (item.line + 1)
        (1 + (draftCode (program source)).length) = 1 + item.base := by
  obtain ⟨front, back, split, line, base⟩ := base_of_mem_program member
  rw [line, base]
  exact pcFrom_append split

private theorem base_le_length {source : String} {item : Emitted}
    (member : item ∈ program source) :
    item.base ≤ (draftCode (program source)).length := by
  obtain ⟨front, back, split, _, base⟩ := base_of_mem_program member
  rw [base, program, split, emittedFrom_append, draftCode, draftCode,
    List.flatMap_append, List.length_append]
  exact Nat.le_add_right _ _

private theorem slot_inside {item : Emitted} {reference : Reference}
    (member : reference ∈ item.references) :
    reference.start = item.offset ∧ reference.base = item.base ∧
      reference.line = item.line ∧
      reference.target ∈ item.instruction.targets ∧
      reference.start < reference.slot ∧
      reference.slot + 2 ≤ reference.base := by
  obtain ⟨⟨place, target⟩, own, rfl⟩ := List.mem_map.mp member
  have mapped : (place, (0 : Int16)) ∈
      (item.instruction.map fun _ => (0 : Int16)).slots := by
    rw [Instruction.slots_map]
    exact List.mem_map_of_mem own
  have fits := (item.instruction.map fun _ => (0 : Int16)).filled.inside _
    mapped
  rw [Instruction.draft_map] at fits
  have named : target ∈ item.instruction.targets := by
    rw [← Instruction.map_snd_slots]
    exact List.mem_map_of_mem own
  obtain ⟨inner, _, shifted⟩ := List.mem_map.mp own
  cases shifted
  refine ⟨rfl, rfl, rfl, named, ?_, ?_⟩
  · simp only
    omega
  · simp only [Emitted.base, Instruction.size] at fits ⊢
    omega

/-! ## Offsets -/

theorem branchOffset_eq_ok {labels : List (String × Nat)} {base : Nat}
    {name : String} {offset : Int16}
    (resolved : branchOffset labels base name = .ok offset) :
    ∃ target, labels.lookup name = some target ∧
      (base : Int) + offset.toInt = target := by
  unfold branchOffset at resolved
  split at resolved
  · cases resolved
  · rename_i target known
    simp only at resolved
    split at resolved
    · rename_i inRange
      cases resolved
      refine ⟨target, known, ?_⟩
      rw [Int16.toInt_ofInt_of_le (by omega) (by omega)]
      omega
    · cases resolved

private theorem branchOffset_of_failure_none {source : String}
    (succeeds : (assemble source).failure = none) {item : Emitted}
    (member : item ∈ program source) {target : At String}
    (named : target ∈ item.instruction.targets) :
    ∃ offset, branchOffset (lastSite source).labels item.base target.value =
      .ok offset := by
  rw [← emitted_placedLines] at member
  obtain ⟨placed, line, own⟩ := List.mem_filterMap.mp member
  have clean := (faults_of_failure_none succeeds line).2
  obtain ⟨⟨offset, instruction⟩, found, rfl⟩ := Option.map_eq_some_iff.mp own
  simp only [Placed.branchFaults, found, List.filterMap_eq_nil_iff] at clean
  have resolved := clean target named
  cases result : branchOffset (lastSite source).labels
      (offset + instruction.size) target.value with
  | ok offset => exact ⟨offset, result⟩
  | error fault =>
      rw [result] at resolved
      cases resolved

/-- An offset leads to the first instruction on the line that defines the
label, or below it. -/
theorem target_of_failure_none {source : String}
    (succeeds : (assemble source).failure = none) {item : Emitted}
    (member : item ∈ program source) {target : At String}
    (named : target ∈ item.instruction.targets) :
    ∃ offset number,
      branchOffset (lastSite source).labels item.base target.value =
        .ok offset ∧
      DefinedOn source target.value number ∧
      (1 + item.base : Int) + offset.toInt =
        (assemble source).sourceMap.pcFrom number
          (1 + (draftCode (program source)).length) := by
  obtain ⟨offset, resolved⟩ :=
    branchOffset_of_failure_none succeeds member named
  obtain ⟨goal, known, sum⟩ := branchOffset_eq_ok resolved
  obtain ⟨number, definedOn, place⟩ := pcFrom_of_lookup known
  refine ⟨offset, number, resolved, definedOn, ?_⟩
  rw [place]
  omega

theorem length_bytecode {source : String}
    (succeeds : (assemble source).failure = none) :
    (assemble source).bytecode.length =
      1 + (draftCode (program source)).length := by
  rw [bytecode_of_failure_none succeeds, List.length_cons,
    (filled_program source).sameLength, Nat.add_comm]

/-! ## Programs -/

@[simp] theorem map_target_references (placed : List Placed) :
    (references (emitted placed)).map Reference.target =
      placed.flatMap Placed.references := by
  induction placed with
  | nil => rfl
  | cons line placed induction =>
      rw [List.flatMap_cons, ← induction]
      cases found : line.instruction with
      | none =>
          simp [emitted, references, Placed.emitted?, Placed.references, found]
      | some pair =>
          have own : (Emitted.references ⟨pair.1, line.line, pair.2⟩).map
              Reference.target = pair.2.targets := by
            rw [← Instruction.map_snd_slots, Emitted.references, List.map_map]
            rfl
          simp [emitted, references, Placed.emitted?, Placed.references, found,
            own]

/-- Code is written in two passes, of which the second one only writes the
slots of the targets. -/
structure TwoPasses (source : String) : Prop where
  /-- Every target of an accepted instruction has its slot. -/
  complete : (references (program source)).map Reference.target =
    (placedLines source).flatMap Placed.references
  apart : (references (program source)).Pairwise fun first second =>
    first.slot + 2 ≤ second.slot
  /-- A slot lies inside its own instruction, and that inside the code. -/
  inside : ∀ reference ∈ references (program source),
    reference.start < reference.slot ∧
      reference.slot + 2 ≤ reference.base ∧
      reference.base ≤ (draftCode (program source)).length
  resolved : resolveAll (lastSite source).labels
    (references (program source)) (draftCode (program source)) = code source
  untouched : ∀ position,
    (∀ reference ∈ references (program source),
      position ≠ reference.slot ∧ position ≠ reference.slot + 1) →
        (code source)[position]? = (draftCode (program source))[position]?

theorem twoPasses (source : String) : TwoPasses source where
  complete := by
    rw [← emitted_placedLines]
    exact map_target_references (placedLines source)
  apart := List.pairwise_map.mp (filled_program source).apart
  inside reference member := by
    obtain ⟨item, own, place⟩ := List.mem_flatMap.mp member
    obtain ⟨_, base, _, _, behind, before⟩ := slot_inside place
    exact ⟨behind, before, base ▸ base_le_length own⟩
  resolved := resolveAll_of_filled (filled_program source)
  untouched position outside := by
    apply (filled_program source).untouched
    intro slot member
    obtain ⟨reference, own, rfl⟩ := List.mem_map.mp member
    exact outside reference own

/-- The two bytes of a target, read as a signed number, lead from the end of
its instruction to the first instruction on the given line or below. -/
structure Reference.LeadsTo (source : String) (reference : Reference)
    (number : Nat) : Prop where
  /-- The instruction is that of its line. -/
  listed : (1 + reference.start, reference.line) ∈
    (assemble source).sourceMap.entries
  /-- The next instruction, or the end, comes right behind it. -/
  ended : 1 + reference.base =
    (assemble source).sourceMap.pcFrom (reference.line + 1)
      (assemble source).bytecode.length
  /-- The line is the only one that defines the label. -/
  definedOn : ∀ other,
    DefinedOn source reference.target.value other ↔ other = number
  leads : ∃ high low,
    (assemble source).bytecode[1 + reference.slot]? = some high ∧
    (assemble source).bytecode[1 + reference.slot + 1]? = some low ∧
    (1 + reference.base : Int) + Operand.decodeOffset high low =
      (assemble source).sourceMap.pcFrom number
        (assemble source).bytecode.length

theorem leadsTo_of_failure_none {source : String}
    (succeeds : (assemble source).failure = none) {reference : Reference}
    (member : reference ∈ references (program source)) :
    ∃ number, reference.LeadsTo source number := by
  obtain ⟨item, own, place⟩ := List.mem_flatMap.mp member
  obtain ⟨start, base, line, named, _, _⟩ := slot_inside place
  obtain ⟨offset, number, resolved, definedOn, sum⟩ :=
    target_of_failure_none succeeds own named
  have size := length_bytecode succeeds
  have clean : ∀ placed ∈ placedLines source, placed.faults = [] :=
    fun placed line => (faults_of_failure_none succeeds line).1
  refine ⟨number, ?_, ?_, ?_, ?_⟩
  · rw [sourceMap_assemble, start, line]
    exact List.mem_map_of_mem own
  · rw [base, line, size]
    exact (pcFrom_line_succ own).symm
  · intro other
    constructor
    · intro there
      exact definedOn_unique clean there definedOn
    · rintro rfl
      exact definedOn
  · obtain ⟨high, low, bytes, value⟩ :=
      Operand.decodeOffset_encodeOffset offset
    have content : reference.content (lastSite source).labels =
        (reference.slot, offset) := by
      rw [Reference.content, base, resolved]
      rfl
    have written := (filled_program source).written _
      (List.mem_map_of_mem member)
    rw [content, bytes] at written
    have window := getElem?_of_take_two written
    refine ⟨high, low, ?_, ?_, ?_⟩
    · rw [bytecode_of_failure_none succeeds, Nat.add_comm 1,
        List.getElem?_cons_succ]
      exact window.1
    · rw [bytecode_of_failure_none succeeds, Nat.add_comm 1,
        List.getElem?_cons_succ]
      exact window.2
    · rw [base, value, size]
      exact sum

/-- A program is its version and its code, written in two passes.  If it does
not fail, every target leads to where its label is defined, which is an
instruction of the source map or the end of the program. -/
theorem branches_reach_labels (source : String) :
    TwoPasses source ∧
      ((assemble source).failure = none →
        (assemble source).bytecode =
            UInt8.ofNat (assemble source).version :: code source ∧
          ∀ reference ∈ references (program source),
            ∃ number, reference.LeadsTo source number ∧
              ((assemble source).sourceMap.pcFrom number
                    (assemble source).bytecode.length ∈
                  (assemble source).sourceMap.entries.map (·.1) ∨
                (assemble source).sourceMap.pcFrom number
                    (assemble source).bytecode.length =
                  (assemble source).bytecode.length)) := by
  refine ⟨twoPasses source, ?_⟩
  intro succeeds
  refine ⟨bytecode_of_failure_none succeeds, ?_⟩
  intro reference member
  obtain ⟨number, leads⟩ := leadsTo_of_failure_none succeeds member
  exact ⟨number, leads, SourceMap.pcFrom_cases _ _ _⟩

theorem branches_reach_labels_switch :
    (assemble "switch a b\na: err\nb:").failure = none ∧
      (references (program "switch a b\na: err\nb:")).map
        Reference.slot = [2, 4] ∧
      ∀ reference ∈ references (program "switch a b\na: err\nb:"),
        ∃ number, reference.LeadsTo "switch a b\na: err\nb:" number := by
  have succeeds : (assemble "switch a b\na: err\nb:").failure = none := by
    decide +kernel
  refine ⟨succeeds, by decide +kernel, ?_⟩
  intro reference member
  obtain ⟨number, leads, _⟩ :=
    ((branches_reach_labels _).2 succeeds).2 reference member
  exact ⟨number, leads⟩

end TealTools.Assembly

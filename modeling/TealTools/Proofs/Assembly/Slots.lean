import TealTools.Instruction

/-!
# Slots for branch offsets

The targets of an instruction take two bytes each, at places that do not
depend on the targets.  Code whose targets are known arises from its draft by
writing into these slots, and nothing else of it changes.
-/

namespace TealTools

/-- Places moved behind bytes of the given number. -/
def shift {α : Type} (distance : Nat) (slots : List (Nat × α)) :
    List (Nat × α) :=
  slots.map fun slot => (distance + slot.1, slot.2)

section

variable {target other : Type}

/-- The places of targets that follow one another. -/
def goalSlots : List target → List (Nat × target)
  | [] => []
  | goal :: goals => (0, goal) :: shift 2 (goalSlots goals)

namespace Operand

/-- The bytes of an operand before its targets are known. -/
def draft (operand : Operand target) : Bytes :=
  (operand.map fun _ => (0 : Int16)).encode

/-- The places of the targets among the bytes of an operand. -/
def slots : Operand target → List (Nat × target)
  | branch goal => [(0, goal)]
  | branches goals => shift 1 (goalSlots goals)
  | byte _ | int _ | bytes _ | ints _ | strings _ => []

end Operand

def operandSlots : List (Operand target) → List (Nat × target)
  | [] => []
  | operand :: operands =>
    operand.slots ++ shift operand.draft.length (operandSlots operands)

def Instruction.slots (instruction : Instruction target) :
    List (Nat × target) :=
  shift 1 (operandSlots instruction.operands)

/-! ## Targets -/

@[simp] private theorem map_snd_shift
    {α : Type} (distance : Nat) (slots : List (Nat × α)) :
    (shift distance slots).map (·.2) = slots.map (·.2) := by
  simp [shift]

@[simp] private theorem map_snd_goalSlots (goals : List target) :
    (goalSlots goals).map (·.2) = goals := by
  induction goals with
  | nil => rfl
  | cons goal goals induction =>
      rw [goalSlots, List.map_cons, map_snd_shift, induction]

@[simp] theorem Operand.map_snd_slots (operand : Operand target) :
    operand.slots.map (·.2) = operand.targets := by
  cases operand with
  | branches goals => exact (map_snd_shift 1 _).trans (map_snd_goalSlots goals)
  | branch goal => rfl
  | byte value => rfl
  | int value => rfl
  | bytes value => rfl
  | ints values => rfl
  | strings values => rfl

/-- Every target of an instruction has its slot, in encoding order. -/
@[simp] theorem Instruction.map_snd_slots (instruction : Instruction target) :
    instruction.slots.map (·.2) = instruction.targets := by
  rw [Instruction.slots, map_snd_shift, Instruction.targets]
  induction instruction.operands with
  | nil => rfl
  | cons operand operands induction =>
      rw [operandSlots, List.map_append, map_snd_shift,
        Operand.map_snd_slots, induction, List.flatMap_cons]

/-! ## Changing the targets -/

@[simp] theorem Operand.map_map {third : Type} (change : target → other)
    (again : other → third) (operand : Operand target) :
    (operand.map change).map again =
      operand.map fun goal => again (change goal) := by
  cases operand with
  | branches goals => simp only [map, List.map_map, Function.comp_def]
  | branch goal => rfl
  | byte value => rfl
  | int value => rfl
  | bytes value => rfl
  | ints values => rfl
  | strings values => rfl

@[simp] theorem Instruction.map_map {third : Type} (change : target → other)
    (again : other → third) (instruction : Instruction target) :
    (instruction.map change).map again =
      instruction.map fun goal => again (change goal) := by
  simp only [map, List.map_map, Function.comp_def, Operand.map_map]

theorem Operand.draft_map (change : target → other)
    (operand : Operand target) :
    (operand.map change).draft = operand.draft := by
  rw [draft, map_map, draft]

theorem Instruction.draft_map (change : target → other)
    (instruction : Instruction target) :
    (instruction.map change).draft = instruction.draft := by
  rw [draft, map_map, draft]

theorem Instruction.draft_eq (instruction : Instruction target) :
    instruction.draft =
      instruction.code :: instruction.operands.flatMap Operand.draft := by
  simp only [draft, map, encode, List.flatMap_map]
  rfl

private theorem shift_map (change : target → other) (distance : Nat)
    (slots : List (Nat × target)) :
    shift distance (slots.map fun slot => (slot.1, change slot.2)) =
      (shift distance slots).map fun slot => (slot.1, change slot.2) := by
  simp [shift]

private theorem goalSlots_map (change : target → other) (goals : List target) :
    goalSlots (goals.map change) =
      (goalSlots goals).map fun slot => (slot.1, change slot.2) := by
  induction goals with
  | nil => rfl
  | cons goal goals induction =>
      rw [List.map_cons, goalSlots, goalSlots, induction, shift_map,
        List.map_cons]

theorem Operand.slots_map (change : target → other)
    (operand : Operand target) :
    (operand.map change).slots =
      operand.slots.map fun slot => (slot.1, change slot.2) := by
  cases operand with
  | branches goals =>
      simp only [map, slots]
      rw [goalSlots_map, shift_map]
  | branch goal => rfl
  | byte value => rfl
  | int value => rfl
  | bytes value => rfl
  | ints values => rfl
  | strings values => rfl

/-- The slots stay where they are when targets are replaced. -/
theorem Instruction.slots_map (change : target → other)
    (instruction : Instruction target) :
    (instruction.map change).slots =
      instruction.slots.map fun slot => (slot.1, change slot.2) := by
  rw [slots, slots, ← shift_map]
  congr 1
  simp only [map]
  induction instruction.operands with
  | nil => rfl
  | cons operand operands induction =>
      rw [List.map_cons, operandSlots, operandSlots, induction,
        Operand.slots_map, Operand.draft_map, shift_map, List.map_append]

end

/-! ## Offsets -/

/-- The offset that two bytes spell in two's complement, the most significant
byte first. -/
def Operand.decodeOffset (high low : UInt8) : Int :=
  if high.toNat < 0x80 then high.toNat * 0x100 + low.toNat
  else high.toNat * 0x100 + low.toNat - 0x10000

theorem Operand.decodeOffset_encodeOffset (offset : Int16) :
    ∃ high low, encodeOffset offset = [high, low] ∧
      decodeOffset high low = offset.toInt := by
  refine ⟨_, _, rfl, ?_⟩
  have value : offset.toInt =
      if 2 * offset.toUInt16.toNat < 0x10000 then
        (offset.toUInt16.toNat : Int)
      else offset.toUInt16.toNat - 0x10000 :=
    BitVec.toInt_eq_toNat_cond offset.toUInt16.toBitVec
  have bound := offset.toUInt16.toNat_lt
  have high : (offset.toUInt16 >>> 8).toUInt8.toNat =
      offset.toUInt16.toNat / 0x100 := by
    have shifted : (offset.toUInt16 >>> 8).toNat =
        offset.toUInt16.toNat / 0x100 := by
      rw [UInt16.toNat_shiftRight]
      exact Nat.shiftRight_eq_div_pow offset.toUInt16.toNat 8
    rw [UInt16.toNat_toUInt8, shifted]
    omega
  have low : offset.toUInt16.toUInt8.toNat =
      offset.toUInt16.toNat % 0x100 := by
    exact UInt16.toNat_toUInt8 offset.toUInt16
  rw [decodeOffset, high, low, value]
  split <;> split <;> omega

@[simp] theorem Operand.encodeOffset_zero : encodeOffset 0 = [0, 0] := by
  decide

/-! ## Filling -/

/-- `bytes` arise from `draft` by writing an offset into each of the slots. -/
structure Filled (slots : List (Nat × Int16)) (draft bytes : Bytes) :
    Prop where
  /-- Slots follow one another and do not overlap. -/
  apart : slots.Pairwise fun first second => first.1 + 2 ≤ second.1
  inside : ∀ slot ∈ slots, slot.1 + 2 ≤ draft.length
  blank : ∀ slot ∈ slots, (draft.drop slot.1).take 2 = [0, 0]
  sameLength : bytes.length = draft.length
  written : ∀ slot ∈ slots,
    (bytes.drop slot.1).take 2 = Operand.encodeOffset slot.2
  /-- Bytes outside the slots are those of the draft. -/
  untouched : ∀ position,
    (∀ slot ∈ slots, position ≠ slot.1 ∧ position ≠ slot.1 + 1) →
      bytes[position]? = draft[position]?

namespace Filled

theorem none (bytes : Bytes) : Filled [] bytes bytes where
  apart := .nil
  inside := nofun
  blank := nofun
  sameLength := rfl
  written := nofun
  untouched _ _ := rfl

theorem offset (offset : Int16) :
    Filled [(0, offset)] [0, 0] (Operand.encodeOffset offset) where
  apart := List.pairwise_singleton _ _
  inside slot member := by
    rw [List.mem_singleton.mp member]
    exact Nat.le_refl 2
  blank slot member := by
    rw [List.mem_singleton.mp member]
    rfl
  sameLength := rfl
  written slot member := by
    rw [List.mem_singleton.mp member]
    rfl
  untouched position outside := by
    have away := outside (0, offset) (List.mem_singleton.mpr rfl)
    have beyond : 2 ≤ position := by
      simp only [ne_eq] at away
      omega
    rw [List.getElem?_eq_none beyond, List.getElem?_eq_none beyond]

private theorem take_two_append {front : Bytes} (back : Bytes) {place : Nat}
    (fits : place + 2 ≤ front.length) :
    ((front ++ back).drop place).take 2 = (front.drop place).take 2 := by
  rw [List.drop_append_of_le_length (by omega),
    List.take_append_of_le_length (by rw [List.length_drop]; omega)]

theorem append {slots more : List (Nat × Int16)}
    {draft bytes draftRest bytesRest : Bytes}
    (front : Filled slots draft bytes)
    (back : Filled more draftRest bytesRest) :
    Filled (slots ++ shift draft.length more) (draft ++ draftRest)
      (bytes ++ bytesRest) where
  apart := by
    rw [List.pairwise_append]
    refine ⟨front.apart, ?_, ?_⟩
    · rw [shift, List.pairwise_map]
      exact back.apart.imp fun apart => by omega
    · intro first member second moved
      obtain ⟨slot, _, rfl⟩ := List.mem_map.mp moved
      have := front.inside first member
      simp only
      omega
  inside slot member := by
    rw [List.length_append]
    rcases List.mem_append.mp member with early | late
    · have := front.inside slot early
      omega
    · obtain ⟨slot, own, rfl⟩ := List.mem_map.mp late
      have := back.inside slot own
      simp only
      omega
  blank slot member := by
    rcases List.mem_append.mp member with early | late
    · rw [take_two_append draftRest (front.inside slot early)]
      exact front.blank slot early
    · obtain ⟨slot, own, rfl⟩ := List.mem_map.mp late
      rw [List.drop_length_add_append]
      exact back.blank slot own
  sameLength := by
    rw [List.length_append, List.length_append, front.sameLength,
      back.sameLength]
  written slot member := by
    rcases List.mem_append.mp member with early | late
    · have fits := front.inside slot early
      rw [← front.sameLength] at fits
      rw [take_two_append bytesRest fits]
      exact front.written slot early
    · obtain ⟨slot, own, rfl⟩ := List.mem_map.mp late
      rw [← front.sameLength, List.drop_length_add_append]
      exact back.written slot own
  untouched position outside := by
    by_cases early : position < draft.length
    · rw [List.getElem?_append_left early,
        List.getElem?_append_left (front.sameLength ▸ early)]
      apply front.untouched
      intro slot member
      exact outside slot (List.mem_append_left _ member)
    · have late : draft.length ≤ position := Nat.le_of_not_lt early
      rw [List.getElem?_append_right late,
        List.getElem?_append_right (front.sameLength ▸ late),
        front.sameLength]
      apply back.untouched
      intro slot member
      have away := outside (draft.length + slot.1, slot.2)
        (List.mem_append_right _ (List.mem_map_of_mem member))
      simp only at away
      omega

end Filled

theorem Operand.filled_goals (goals : List Int16) :
    Filled (goalSlots goals) (goals.flatMap fun _ => [0, 0])
      (goals.flatMap encodeOffset) := by
  induction goals with
  | nil => exact .none []
  | cons goal goals induction => exact (Filled.offset goal).append induction

theorem Operand.filled (operand : Operand Int16) :
    Filled operand.slots operand.draft operand.encode := by
  cases operand with
  | branch goal =>
      have blank : (branch goal).draft = [0, 0] := encodeOffset_zero
      rw [blank]
      exact .offset goal
  | branches goals =>
      have blank : (branches goals).draft =
          [UInt8.ofNat goals.length] ++ goals.flatMap fun _ => [0, 0] := by
        simp only [draft, map, encode, List.length_map, List.flatMap_map,
          encodeOffset_zero, List.singleton_append]
      rw [blank]
      exact (Filled.none [UInt8.ofNat goals.length]).append
        (filled_goals goals)
  | byte value => exact .none _
  | int value => exact .none _
  | bytes value => exact .none _
  | ints values => exact .none _
  | strings values => exact .none _

theorem Instruction.filled (instruction : Instruction Int16) :
    Filled instruction.slots instruction.draft instruction.encode := by
  have operands : ∀ operands : List (Operand Int16),
      Filled (operandSlots operands) (operands.flatMap Operand.draft)
        (operands.flatMap Operand.encode) := by
    intro operands
    induction operands with
    | nil => exact .none []
    | cons operand operands induction => exact operand.filled.append induction
  rw [draft_eq]
  exact (Filled.none [instruction.code]).append (operands _)

@[simp] theorem Instruction.length_encode_map {target : Type}
    (change : target → Int16) (instruction : Instruction target) :
    (instruction.map change).encode.length = instruction.size := by
  rw [(instruction.map change).filled.sameLength, draft_map, size]

/-! ## Writing slot by slot -/

/-- Writes an offset over two bytes, unless they lie outside the code. -/
def writeOffset (code : Bytes) (place : Nat) (offset : Int16) : Bytes :=
  if place + 2 ≤ code.length then
    code.take place ++ Operand.encodeOffset offset ++ code.drop (place + 2)
  else code

section

variable {code : Bytes} {place : Nat} (offset : Int16)

@[simp] theorem length_writeOffset :
    (writeOffset code place offset).length = code.length := by
  unfold writeOffset
  split
  · simp only [Operand.encodeOffset, List.length_append, List.length_take,
      List.length_cons, List.length_nil, List.length_drop]
    omega
  · rfl

private theorem drop_writeOffset {later : Nat} (behind : place + 2 ≤ later) :
    (writeOffset code place offset).drop later = code.drop later := by
  unfold writeOffset
  split
  · rename_i fits
    have front : (code.take place ++ Operand.encodeOffset offset).length =
        place + 2 := by
      simp only [Operand.encodeOffset, List.length_append, List.length_take,
        List.length_cons, List.length_nil]
      omega
    obtain ⟨distance, rfl⟩ := Nat.exists_eq_add_of_le behind
    rw [← front, List.drop_length_add_append, List.drop_drop]
  · rfl

private theorem take_writeOffset (fits : place + 2 ≤ code.length) :
    ((writeOffset code place offset).drop place).take 2 =
      Operand.encodeOffset offset := by
  have front : (code.take place).length = place :=
    List.length_take_of_le (by omega)
  have behind : (code.take place ++ (Operand.encodeOffset offset ++
      code.drop (place + 2))).drop place =
        Operand.encodeOffset offset ++ code.drop (place + 2) :=
    List.drop_left' front
  rw [writeOffset, if_pos fits, List.append_assoc, behind]
  rfl

private theorem getElem?_writeOffset
    {position : Nat} (before : position ≠ place)
    (after : position ≠ place + 1) :
    (writeOffset code place offset)[position]? = code[position]? := by
  by_cases early : position < place
  · unfold writeOffset
    split
    · have inFront : position < (code.take place).length := by
        rw [List.length_take]
        omega
      rw [List.append_assoc, List.getElem?_append_left inFront,
        List.getElem?_take_of_lt early]
    · rfl
  · have late : place + 2 ≤ position := by omega
    have same : (writeOffset code place offset).drop position =
        code.drop position := drop_writeOffset offset late
    have first := congrArg (·[0]?) same
    simpa only [List.getElem?_drop, Nat.add_zero] using first

end

theorem getElem?_of_take_two {bytes window : Bytes} {place : Nat}
    (equal : (bytes.drop place).take 2 = window) :
    bytes[place]? = window[0]? ∧ bytes[place + 1]? = window[1]? := by
  subst window
  simp

namespace Filled

variable {slots : List (Nat × Int16)} {draft bytes : Bytes}

/-- Once the first slot is written, the others are left to write. -/
theorem writeOffset {slot : Nat × Int16}
    (filled : Filled (slot :: slots) draft bytes) :
    Filled slots (writeOffset draft slot.1 slot.2) bytes where
  apart := (List.pairwise_cons.mp filled.apart).2
  inside other member := by
    rw [length_writeOffset]
    exact filled.inside other (List.mem_cons_of_mem slot member)
  blank other member := by
    have behind := (List.pairwise_cons.mp filled.apart).1 other member
    rw [drop_writeOffset slot.2 behind]
    exact filled.blank other (List.mem_cons_of_mem slot member)
  sameLength := by
    rw [length_writeOffset]
    exact filled.sameLength
  written other member :=
    filled.written other (List.mem_cons_of_mem slot member)
  untouched position outside := by
    have fits := filled.inside slot List.mem_cons_self
    have goal := getElem?_of_take_two
      (filled.written slot List.mem_cons_self)
    have here := getElem?_of_take_two (take_writeOffset slot.2 fits)
    by_cases high : position = slot.1
    · rw [high, goal.1, here.1]
    · by_cases low : position = slot.1 + 1
      · rw [low, goal.2, here.2]
      · rw [getElem?_writeOffset slot.2 high low]
        apply filled.untouched
        intro other member
        rcases List.mem_cons.mp member with rfl | member
        · exact ⟨high, low⟩
        · exact outside other member

theorem skipZero {place : Nat}
    (filled : Filled ((place, 0) :: slots) draft bytes) :
    Filled slots draft bytes where
  apart := (List.pairwise_cons.mp filled.apart).2
  inside other member := filled.inside other (List.mem_cons_of_mem _ member)
  blank other member := filled.blank other (List.mem_cons_of_mem _ member)
  sameLength := filled.sameLength
  written other member :=
    filled.written other (List.mem_cons_of_mem _ member)
  untouched position outside := by
    have goal := getElem?_of_take_two
      (filled.written (place, 0) List.mem_cons_self)
    have here := getElem?_of_take_two
      (filled.blank (place, 0) List.mem_cons_self)
    rw [Operand.encodeOffset_zero] at goal
    by_cases high : position = place
    · rw [high, goal.1, here.1]
    · by_cases low : position = place + 1
      · rw [low, goal.2, here.2]
      · apply filled.untouched
        intro other member
        rcases List.mem_cons.mp member with rfl | member
        · exact ⟨high, low⟩
        · exact outside other member

theorem eq_of_nil (filled : Filled [] draft bytes) : bytes = draft := by
  apply List.ext_getElem?
  intro position
  exact filled.untouched position nofun

end Filled

end TealTools

import TealTools.Json.Decode
import TealTools.Proofs.Json.Text

/-!
# Records that are read back

What a record writes for its fields is what its reader finds under their
names.  A reader goes down one level with every array and every object, and so
reads back whatever is not nested deeper than it may go.
-/

namespace TealTools.Json

/-! ## Nesting -/

mutual

/-- How deep arrays and objects are nested. -/
def nesting : Json → Nat
  | array items => itemsNesting items + 1
  | object members => membersNesting members + 1
  | _ => 0

def itemsNesting : List Json → Nat
  | [] => 0
  | item :: items => max (nesting item) (itemsNesting items)

def membersNesting : List (Option String × Json) → Nat
  | [] => 0
  | (_, value) :: members => max (nesting value) (membersNesting members)

end

theorem itemsNesting_le {items : List Json} {depth : Nat} :
    itemsNesting items ≤ depth ↔ ∀ item ∈ items, nesting item ≤ depth := by
  induction items with
  | nil => simp [itemsNesting]
  | cons item items induction =>
      rw [itemsNesting, Nat.max_le, induction, List.forall_mem_cons]

theorem membersNesting_le {members : List (Option String × Json)}
    {depth : Nat} :
    membersNesting members ≤ depth ↔
      ∀ member ∈ members, nesting member.2 ≤ depth := by
  induction members with
  | nil => simp [membersNesting]
  | cons member members induction =>
      rw [membersNesting, Nat.max_le, induction, List.forall_mem_cons]

private theorem nesting_array_le {items : List Json} {depth : Nat} :
    nesting (array items) ≤ depth ↔
      ∃ smaller, depth = smaller + 1 ∧
        ∀ item ∈ items, nesting item ≤ smaller := by
  cases depth with
  | zero => simp [nesting]
  | succ depth => simp [nesting, itemsNesting_le]

theorem nesting_obj_le {members : List (String × Json)} {depth : Nat} :
    nesting (obj members) ≤ depth ↔
      ∃ smaller, depth = smaller + 1 ∧
        ∀ member ∈ members, nesting member.2 ≤ smaller := by
  cases depth with
  | zero => simp [nesting, obj]
  | succ depth =>
      simp only [nesting, obj, membersNesting_le, List.forall_mem_map,
        Nat.add_le_add_iff_right, Nat.add_right_cancel_iff, exists_eq_left']

/-! ## Documents that are written -/

theorem plain_obj {members : List (String × Json)}
    (plain : ∀ member ∈ members, Plain member.2) : Plain (obj members) := by
  apply Plain.object
  · intro member here
    obtain ⟨_, _, rfl⟩ := List.mem_map.mp here
    rfl
  · intro member here
    obtain ⟨own, there, rfl⟩ := List.mem_map.mp here
    exact plain own there

theorem plain_list {α : Type} {encode : α → Json}
    (plain : ∀ value, Plain (encode value)) (values : List α) :
    Plain (array (values.map encode)) := by
  apply Plain.array
  intro item here
  obtain ⟨value, _, rfl⟩ := List.mem_map.mp here
  exact plain value

/-- Every name of such an object spells a text. -/
theorem fields?_obj (names : List String) (members : List (String × Json)) :
    (obj members).fields? names =
      names.mapM (member? (members.map fun (name, value) =>
        (some name, value))) := by
  rw [obj, fields?, if_pos]
  simp

@[simp] theorem uint64?_nat (value : UInt64) :
    uint64? (nat value.toNat) = some value := by
  have range := value.toNat_lt
  simp only [uint64?, nat, intIn?]
  rw [if_pos]
  · simp
  · simp only [UInt64.size]
    omega

@[simp] theorem uint8?_nat
    (value : UInt8) : uint8? (nat value.toNat) = some value := by
  have range := value.toNat_lt
  simp only [uint8?, nat, intIn?]
  rw [if_pos]
  · simp
  · omega

/-- How a field is given that is left out if there is nothing to write. -/
def givenOf {α : Type} (encode : α → Json) : Option α → Given
  | none => .omitted
  | some value => .value (encode value)

theorem nullable_givenOf {α : Type} {encode : α → Json}
    {decode : Json → Option α} {value : Option α}
    (read : ∀ own ∈ value, decode (encode own) = some own)
    (present : ∀ own ∈ value, encode own ≠ null) :
    (givenOf encode value).nullable decode = some value := by
  cases value with
  | none => rfl
  | some own =>
      rw [givenOf, Given.nullable]
      · rw [read own rfl]
        rfl
      · exact present own rfl

theorem optional_ofOption {α : Type} {encode : α → Json}
    {decode : Json → Option α} {value : Option α}
    (read : ∀ own, decode (encode own) = some own)
    (present : ∀ own, encode own ≠ null) :
    (Given.value (ofOption encode value)).optional decode = some value := by
  cases value with
  | none => rfl
  | some own =>
      rw [ofOption, Given.optional, Given.nullable, read]
      · rfl
      · exact present own
      · exact nofun

/-- Values are read back from their documents, as deep as is allowed. -/
def ReadsBack {α : Type} (encode : α → Json)
    (decode : Nat → Json → Option α) (depth : Nat) : Prop :=
  ∀ value, nesting (encode value) ≤ depth →
    decode depth (encode value) = some value

theorem listOf?_map {α : Type} {encode : α → Json}
    {decode : Nat → Json → Option α} {depth : Nat}
    (read : ∀ smaller < depth, ReadsBack encode decode smaller)
    {values : List α} (shallow : nesting (array (values.map encode)) ≤ depth) :
    listOf? decode depth (array (values.map encode)) = some values := by
  obtain ⟨depth, rfl, inside⟩ := nesting_array_le.mp shallow
  clear shallow
  rw [listOf?]
  induction values with
  | nil => rfl
  | cons value values induction =>
      obtain ⟨own, others⟩ := List.forall_mem_cons.mp inside
      rw [List.map_cons, List.mapM_cons,
        read depth (Nat.lt_succ_self depth) value own, induction others]
      rfl

end TealTools.Json

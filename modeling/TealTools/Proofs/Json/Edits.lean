import Mathlib.Data.List.Nodup
import Mathlib.Logic.Relation
import TealTools.Json.Decode

/-!
# Edits that a record does not notice

A record that is written as an object does not depend on the order of its
members, nor on members with names that it does not know.  A vocabulary says
what the records of a protocol know; an edit reorders the members of one
record inside a document, or adds one that it does not know.  A reader that
takes its fields by name, and whose fields are read by such readers, gives
the same value before and after.
-/

namespace TealTools.Json

/-- What stands in a field of a record. -/
inductive Part (Kind : Type) where
  /-- No record. -/
  | bare
  | record (kind : Kind)
  | list (kind : Kind)

/-- The fields of each kind of record, by their names. -/
structure Vocabulary (Kind : Type) where
  fields : Kind → List (String × Part Kind)
  distinct : ∀ kind, ((fields kind).map Prod.fst).Nodup

namespace Vocabulary

variable {Kind : Type}

def names (vocabulary : Vocabulary Kind) (kind : Kind) : List String :=
  (vocabulary.fields kind).map Prod.fst

def parts (vocabulary : Vocabulary Kind) (kind : Kind) : List (Part Kind) :=
  (vocabulary.fields kind).map Prod.snd

end Vocabulary

section

variable {Kind : Type} (vocabulary : Vocabulary Kind)

/-- One change to one record, in the place of the part or inside it. -/
inductive Edit : Part Kind → Json → Json → Prop where
  | permute {kind : Kind} {members members' : List (Option String × Json)} :
      members.Perm members' →
      Edit (.record kind) (object members) (object members')
  | add {kind : Kind} {name : String}
      (front : List (Option String × Json)) (value : Json)
      (back : List (Option String × Json)) :
      name ∉ vocabulary.names kind →
      Edit (.record kind) (object (front ++ back))
        (object (front ++ (some name, value) :: back))
  | field {kind : Kind} {name : String} {part : Part Kind}
      {value value' : Json}
      (front back : List (Option String × Json)) :
      (name, part) ∈ vocabulary.fields kind → Edit part value value' →
      Edit (.record kind) (object (front ++ (some name, value) :: back))
        (object (front ++ (some name, value') :: back))
  | item {kind : Kind} {value value' : Json} (front back : List Json) :
      Edit (.record kind) value value' →
      Edit (.list kind) (array (front ++ value :: back))
        (array (front ++ value' :: back))

/-- Any number of changes. -/
def Edits (part : Part Kind) : Json → Json → Prop :=
  Relation.ReflTransGen (Edit vocabulary part)

/-- The reader gives the same value before and after an edit. -/
def Blind {α : Type} (part : Part Kind) (decode : Json → Option α) : Prop :=
  ∀ {json json' : Json}, Edit vocabulary part json json' →
    decode json = decode json'

/-- A field before and after an edit of the record. -/
inductive SameField (part : Part Kind) : Given → Given → Prop where
  | kept (given : Given) : SameField part given given
  | edited {json json' : Json} :
      Edit vocabulary part json json' →
      SameField part (.value json) (.value json')

/-- All fields of a record before and after an edit. -/
inductive SameFields : List (Part Kind) → List Given → List Given → Prop where
  | nil : SameFields [] [] []
  | cons {part : Part Kind} {parts : List (Part Kind)} {given given' : Given}
      {more more' : List Given} :
      SameField vocabulary part given given' → SameFields parts more more' →
      SameFields (part :: parts) (given :: more) (given' :: more')

end

variable {Kind : Type} {vocabulary : Vocabulary Kind}

/-! ## One field -/

private theorem member?_congr {members members' : List (Option String × Json)}
    {name : String} (same : (valuesOf name members).Perm
      (valuesOf name members')) :
    member? members name = member? members' name := by
  unfold member?
  match values : valuesOf name members with
  | [] =>
      rw [values] at same
      rw [List.nil_perm.mp same]
  | [json] =>
      rw [values] at same
      rw [List.singleton_perm.mp same]
  | first :: second :: more =>
      rw [values] at same
      have size := same.length_eq
      match others : valuesOf name members' with
      | [] => simp [others] at size
      | [json] => simp [others] at size
      | _ :: _ :: _ => rfl

@[simp] theorem valuesOf_append (name : String)
    (front back : List (Option String × Json)) :
    valuesOf name (front ++ back) = valuesOf name front ++ valuesOf name back :=
  List.filterMap_append

@[simp] theorem valuesOf_cons_self (name : String) (value : Json)
    (members : List (Option String × Json)) :
    valuesOf name ((some name, value) :: members) =
      value :: valuesOf name members := by
  simp [valuesOf]

theorem valuesOf_cons_of_ne {name : String} {other : Option String}
    (different : some name ≠ other) (value : Json)
    (members : List (Option String × Json)) :
    valuesOf name ((other, value) :: members) = valuesOf name members := by
  simp [valuesOf, different.symm]

/-- A field is given once, and then the edit shows, or not at all. -/
private theorem member?_field
    {part : Part Kind} {name : String} {value value' : Json}
    (edit : Edit vocabulary part value value')
    (front back : List (Option String × Json)) :
    Option.Rel (SameField vocabulary part)
      (member? (front ++ (some name, value) :: back) name)
      (member? (front ++ (some name, value') :: back) name) := by
  simp only [member?, valuesOf_append, valuesOf_cons_self]
  match valuesOf name front, valuesOf name back with
  | [], [] => exact .some (.edited edit)
  | [], _ :: _ => exact .none
  | [_], _ => exact .none
  | _ :: _ :: _, _ => exact .none

theorem member?_kept {part : Part Kind}
    {members members' : List (Option String × Json)} {name : String}
    (same : (valuesOf name members).Perm (valuesOf name members')) :
    Option.Rel (SameField vocabulary part) (member? members name)
      (member? members' name) := by
  rw [member?_congr same]
  cases member? members' name with
  | none => exact .none
  | some given => exact .some (.kept given)

/-- A name belongs to one field only. -/
private theorem part_unique
    {kind : Kind} {name : String} {part part' : Part Kind}
    (first : (name, part) ∈ vocabulary.fields kind)
    (second : (name, part') ∈ vocabulary.fields kind) : part = part' := by
  have same := List.inj_on_of_nodup_map (vocabulary.distinct kind) first second
    rfl
  exact (Prod.mk.inj same).2

theorem member?_edit {kind : Kind}
    {members members' : List (Option String × Json)}
    (edit : Edit vocabulary (.record kind) (object members) (object members'))
    {name : String} {part : Part Kind}
    (known : (name, part) ∈ vocabulary.fields kind) :
    Option.Rel (SameField vocabulary part) (member? members name)
      (member? members' name) := by
  cases edit with
  | permute order => exact member?_kept (order.filterMap _)
  | @add _ other front value back unknown =>
      have different : some name ≠ some other := by
        rintro ⟨⟩
        exact unknown (List.mem_map_of_mem known)
      apply member?_kept
      rw [valuesOf_append, valuesOf_append, valuesOf_cons_of_ne different]
  | @field _ other own value value' front back here edit =>
      by_cases same : some name = some other
      · cases same
        rw [part_unique known here]
        exact member?_field edit front back
      · apply member?_kept
        rw [valuesOf_append, valuesOf_append, valuesOf_cons_of_ne same,
          valuesOf_cons_of_ne same]

/-! ## All fields -/

private theorem rel_bind {α β : Type} {r : α → α → Prop} {s : β → β → Prop}
    {first second : Option α} {next next' : α → Option β}
    (same : Option.Rel r first second)
    (step : ∀ {a b}, r a b → Option.Rel s (next a) (next' b)) :
    Option.Rel s (first.bind next) (second.bind next') := by
  cases same with
  | some same => exact step same
  | none => exact .none

private theorem mapM_member?_edit {kind : Kind}
    {members members' : List (Option String × Json)}
    (edit : Edit vocabulary (.record kind) (object members) (object members'))
    {fields : List (String × Part Kind)}
    (known : ∀ field ∈ fields, field ∈ vocabulary.fields kind) :
    Option.Rel (SameFields vocabulary (fields.map Prod.snd))
      ((fields.map Prod.fst).mapM (member? members))
      ((fields.map Prod.fst).mapM (member? members')) := by
  induction fields with
  | nil => exact .some .nil
  | cons field fields induction =>
      obtain ⟨here, others⟩ := List.forall_mem_cons.mp known
      simp only [List.map_cons, List.mapM_cons]
      exact rel_bind (member?_edit edit here) fun same =>
        rel_bind (induction others) fun more => .some (.cons same more)

/-- Whether all names spell texts does not depend on an edit. -/
private theorem allNamed_edit {kind : Kind}
    {members members' : List (Option String × Json)}
    (edit : Edit vocabulary (.record kind) (object members)
      (object members')) :
    (members.all fun member => member.1.isSome) =
      members'.all fun member => member.1.isSome := by
  cases edit with
  | permute order => exact order.all_eq
  | add front value back unknown => simp
  | field front back here edit => simp

theorem fields?_edit {kind : Kind} {json json' : Json}
    (edit : Edit vocabulary (.record kind) json json') :
    Option.Rel (SameFields vocabulary (vocabulary.parts kind))
      (json.fields? (vocabulary.names kind))
      (json'.fields? (vocabulary.names kind)) := by
  obtain ⟨members, members', rfl, rfl⟩ : ∃ members members',
      json = object members ∧ json' = object members' := by
    cases edit <;> exact ⟨_, _, rfl, rfl⟩
  rw [fields?, fields?, allNamed_edit edit]
  split
  · exact mapM_member?_edit edit fun _ => id
  · exact .none

/-! ## Readers -/

theorem blind_bare {α : Type} (decode : Json → Option α) :
    Blind vocabulary .bare decode :=
  fun edit => nomatch edit

/-- A record is read by its fields, each of which may have been edited. -/
theorem Edit.read_eq {α : Type} {kind : Kind} {json json' : Json}
    (edit : Edit vocabulary (.record kind) json json')
    {read : List Given → Option α}
    (blind : ∀ {given given' : List Given},
      SameFields vocabulary (vocabulary.parts kind) given given' →
      read given = read given') :
    (json.fields? (vocabulary.names kind)).bind read =
      (json'.fields? (vocabulary.names kind)).bind read := by
  have same := fields?_edit edit
  generalize json.fields? (vocabulary.names kind) = given at same ⊢
  generalize json'.fields? (vocabulary.names kind) = given' at same ⊢
  cases same with
  | some same => exact blind same
  | none => rfl

theorem blind_listOf? {α : Type} {kind : Kind}
    {decode : Nat → Json → Option α} {depth : Nat}
    (blind : ∀ smaller < depth, Blind vocabulary (.record kind)
      (decode smaller)) :
    Blind vocabulary (.list kind) (listOf? decode depth) := by
  intro json json' edit
  cases edit with
  | @item _ value value' front back edit =>
      cases depth with
      | zero => rfl
      | succ depth =>
          have same : decode depth value = decode depth value' :=
            blind depth (Nat.lt_succ_self depth) edit
          simp only [listOf?, List.mapM_append, List.mapM_cons, same]

namespace SameField

variable {α : Type} {part : Part Kind} {decode : Json → Option α}
  {given given' : Given}

theorem required (same : SameField vocabulary part given given')
    (blind : Blind vocabulary part decode) :
    given.required decode = given'.required decode := by
  cases same with
  | kept => rfl
  | edited edit => exact blind edit

theorem withDefault (same : SameField vocabulary part given given')
    (blind : Blind vocabulary part decode) (default : α) :
    given.withDefault default decode = given'.withDefault default decode := by
  cases same with
  | kept => rfl
  | edited edit => exact blind edit

/-- An edit is made to an object or an array, neither of which is null. -/
theorem nullable (same : SameField vocabulary part given given')
    (blind : Blind vocabulary part decode) :
    given.nullable decode = given'.nullable decode := by
  cases same with
  | kept => rfl
  | edited edit =>
      have read := congrArg (Option.map some) (blind edit)
      cases edit <;> exact read

theorem optional (same : SameField vocabulary part given given')
    (blind : Blind vocabulary part decode) :
    given.optional decode = given'.optional decode := by
  cases same with
  | kept => rfl
  | edited edit => exact (SameField.edited edit).nullable blind

end SameField

/-- One edit after the other. -/
theorem decode_edits {α : Type} {part : Part Kind} {decode : Json → Option α}
    (blind : Blind vocabulary part decode) {json json' : Json}
    (edits : Edits vocabulary part json json') :
    decode json = decode json' := by
  induction edits with
  | refl => rfl
  | tail _ edit induction => exact induction.trans (blind edit)

end TealTools.Json

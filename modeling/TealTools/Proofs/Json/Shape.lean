import Mathlib.Data.List.Nodup
import TealTools.Json.Shape
import TealTools.Proofs.Json.Edits

/-!
# Records read by their shape

A reading by shape goes through the members in the order in which they stand
and stops at the first fault.  If each field is given at most once and what
is given can be read, there is no fault to stop at, and the record has what
was read under each of its names, in whatever order the members stand.
-/

namespace TealTools.Json.Shape

/-- What a field finds among the members of an object. -/
inductive Finds (reader : Reader) (members : List Member) :
    Option Reading → Prop where
  | nothing : valuesOf reader.key.name members = [] →
      Finds reader members none
  | one {json : Json} {reading : Reading} :
      valuesOf reader.key.name members = [json] →
      reader.read json = .ok reading → Finds reader members (some reading)

/-- No two fields share a name or a label. -/
structure Distinct (readers : List Reader) : Prop where
  names : (readers.map fun reader => reader.key.name).Nodup
  labels : (readers.map fun reader => reader.key.label).Nodup

theorem Finds.skip {reader : Reader} {name : Option String}
    (different : some reader.key.name ≠ name) {value : Json}
    {members : List Member} {reading : Option Reading}
    (finds : Finds reader ((name, value) :: members) reading) :
    Finds reader members reading := by
  cases finds with
  | nothing none =>
      rw [valuesOf_cons_of_ne different] at none
      exact .nothing none
  | one one read =>
      rw [valuesOf_cons_of_ne different] at one
      exact .one one read

theorem Finds.take {reader : Reader} {value : Json} {members : List Member}
    {reading : Option Reading}
    (finds : Finds reader ((some reader.key.name, value) :: members) reading) :
    valuesOf reader.key.name members = [] ∧
      ∃ own, reading = some own ∧ reader.read value = .ok own := by
  cases finds with
  | nothing none =>
      rw [valuesOf_cons_self] at none
      cases none
  | one one read =>
      rw [valuesOf_cons_self] at one
      obtain ⟨rfl, others⟩ := List.cons.inj one
      exact ⟨others, _, rfl, read⟩

/-- Nothing is wrong with the members that are left, once some fields have
been found. -/
structure Ready (readers : List Reader) (found : List (String × Reading))
    (members : List Member) : Prop where
  finds : ∀ reader ∈ readers, ∃ reading, Finds reader members reading
  fresh : ∀ reader ∈ readers, valuesOf reader.key.name members ≠ [] →
    ∀ field ∈ found, field.1 ≠ reader.key.label

section

variable {readers : List Reader} {found : List (String × Reading)}
  {members : List Member}

theorem Distinct.name_ne (distinct : Distinct readers) {reader other : Reader}
    (known : reader ∈ readers) (there : other ∈ readers)
    (different : other ≠ reader) :
    some other.key.name ≠ some reader.key.name := by
  intro same
  exact different (List.inj_on_of_nodup_map distinct.names there known
    (Option.some.inj same))

private theorem Distinct.label_ne (distinct : Distinct readers)
    {reader other : Reader} (known : reader ∈ readers)
    (there : other ∈ readers) (different : other ≠ reader) :
    other.key.label ≠ reader.key.label := by
  intro same
  exact different (List.inj_on_of_nodup_map distinct.labels there known same)

/-- An unknown member is passed over. -/
theorem Ready.skip {name : Option String} {value : Json}
    (ready : Ready readers found ((name, value) :: members))
    (unknown : ∀ reader ∈ readers, some reader.key.name ≠ name) :
    Ready readers found members where
  finds reader known := (ready.finds reader known).imp fun _ =>
    Finds.skip (unknown reader known)
  fresh reader known given := by
    apply ready.fresh reader known
    rwa [valuesOf_cons_of_ne (unknown reader known)]

/-- A member of a field is read, and there is no second one. -/
theorem Ready.take (distinct : Distinct readers) {reader : Reader}
    (known : reader ∈ readers) {value : Json}
    (ready : Ready readers found
      ((some reader.key.name, value) :: members)) :
    (∀ field ∈ found, field.1 ≠ reader.key.label) ∧
      ∃ own, reader.read value = .ok own ∧
        Ready readers (found ++ [(reader.key.label, own)]) members := by
  obtain ⟨_, findsOwn⟩ := ready.finds reader known
  obtain ⟨last, own, rfl, read⟩ := findsOwn.take
  refine ⟨ready.fresh reader known (by simp), own, read,
    ?_, ?_⟩
  · intro other there
    by_cases same : other = reader
    · exact ⟨none, .nothing (same ▸ last)⟩
    · exact (ready.finds other there).imp fun _ =>
        Finds.skip (distinct.name_ne known there same)
  · intro other there given
    have different : other ≠ reader := by
      rintro rfl
      exact given last
    rw [List.forall_mem_append, List.forall_mem_singleton]
    constructor
    · apply ready.fresh other there
      rwa [valuesOf_cons_of_ne (distinct.name_ne known there different)]
    · exact (distinct.label_ne known there different).symm

/-- All members are gone through, and each field has what it finds. -/
private theorem takeMembers_finds (distinct : Distinct readers)
    (ready : Ready readers found members) :
    ∃ more rest,
      takeMembers readers found members = .ok (found ++ more, rest) ∧
      ∀ reader ∈ readers, ∀ reading, Finds reader members reading →
        more.lookup reader.key.label = reading := by
  induction members generalizing found with
  | nil =>
      refine ⟨[], [], by rw [takeMembers, List.append_nil], ?_⟩
      intro reader known reading finds
      cases finds with
      | nothing _ => rfl
      | one one _ => cases one
  | cons member members induction =>
      obtain ⟨name, value⟩ := member
      rw [takeMembers]
      cases owner : readers.find? fun reader => some reader.key.name = name with
      | none =>
          have unknown : ∀ reader ∈ readers, some reader.key.name ≠ name := by
            simpa using owner
          obtain ⟨more, rest, taken, looked⟩ := induction (ready.skip unknown)
          refine ⟨more, (name, value) :: rest, ?_, ?_⟩
          · rw [taken]
            rfl
          · intro reader known reading finds
            exact looked reader known reading
              (finds.skip (unknown reader known))
      | some reader =>
          have known := List.mem_of_find?_eq_some owner
          obtain rfl : some reader.key.name = name := by
            simpa using List.find?_some owner
          obtain ⟨unseen, own, read, ready⟩ := ready.take distinct known
          obtain ⟨more, rest, taken, looked⟩ := induction ready
          have fresh : ¬ found.any fun field =>
              field.1 = reader.key.label := by
            simpa using fun reading member => unseen (_, reading) member rfl
          refine ⟨(reader.key.label, own) :: more, rest, ?_, ?_⟩
          · simp [fresh, read, taken, bind, Except.bind]
          · intro other there reading finds
            by_cases same : other = reader
            · subst same
              obtain ⟨_, again, rfl, reads⟩ := finds.take
              rw [List.lookup_cons_self, Except.ok.inj (read.symm.trans reads)]
            · rw [List.lookup_cons,
                beq_eq_false_iff_ne.mpr (distinct.label_ne known there same)]
              exact looked other there reading
                (finds.skip (distinct.name_ne known there same))

end

/-- The record of an object has what each field finds, or nothing in its
place. -/
private theorem complete_lookup {readers : List Reader}
    {found : List (String × Reading)}
    (optional : ∀ reader ∈ readers, reader.isOptional) :
    complete readers found = .ok (readers.map fun reader =>
      (reader.key.label, (found.lookup reader.key.label).getD .absent)) := by
  induction readers with
  | nil => rfl
  | cons reader readers induction =>
      obtain ⟨own, others⟩ := List.forall_mem_cons.mp optional
      have rest := induction others
      rw [complete] at rest ⊢
      rw [List.mapM_cons, rest, List.map_cons]
      cases found.lookup reader.key.label with
      | none => simp [own, bind, Except.bind, pure, Except.pure]
      | some reading => rfl

/-- A record of fields that may be left out, from an object in which each is
given at most once. -/
theorem readRecord_finds {held : Bool} {name : String} {readers : List Reader}
    (distinct : Distinct readers)
    (optional : ∀ reader ∈ readers, reader.isOptional)
    {members : List Member} {outcome : Reader → Reading}
    (finds : ∀ reader ∈ readers, ∃ reading, Finds reader members reading ∧
      reading.getD .absent = outcome reader) :
    readRecord held name readers (object members) =
      .ok (.record name (readers.map fun reader =>
        (reader.key.label, outcome reader))) := by
  have ready : Ready readers [] members :=
    { finds := fun reader known =>
        (finds reader known).imp fun _ => And.left
      fresh := fun _ _ _ => nofun }
  obtain ⟨more, rest, taken, looked⟩ := takeMembers_finds distinct ready
  have fields : (readers.map fun reader =>
      (reader.key.label, (more.lookup reader.key.label).getD .absent)) =
      readers.map fun reader => (reader.key.label, outcome reader) := by
    apply List.map_congr_left
    intro reader known
    obtain ⟨reading, found, same⟩ := finds reader known
    rw [looked reader known reading found, same]
  rw [readRecord, taken, ← fields]
  show ((complete readers more).bind fun fields => _) = _
  rw [complete_lookup optional]
  rfl

/-- What is read for a value that may be null or be left out. -/
def optionalReading {α : Type} (wrap : α → Reading) : Option α → Reading
  | none => .absent
  | some value => .given (wrap value)

/-- A field that may be left out is read as it is taken apart, if both agree
on what is given. -/
theorem finds_optional {α : Type} {reader : Reader} {wrap : α → Reading}
    {decode : Json → Option α}
    (agrees : ∀ json value, (Given.value json).optional decode = some value →
      reader.read json = .ok (optionalReading wrap value))
    {members : List Member} {given : Given} {value : Option α}
    (member : member? members reader.key.name = some given)
    (decoded : given.optional decode = some value) :
    ∃ reading, Finds reader members reading ∧
      reading.getD .absent = optionalReading wrap value := by
  unfold member? at member
  split at member
  · rename_i none
    cases member
    cases decoded
    exact ⟨_, .nothing none, rfl⟩
  · rename_i json one
    cases member
    exact ⟨_, .one one (agrees json value decoded), rfl⟩
  · cases member

end TealTools.Json.Shape

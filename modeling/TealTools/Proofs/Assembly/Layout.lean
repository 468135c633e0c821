import TealTools.Assembly.Program

/-!
# What a layout holds

Which instructions a program has, and where they stand, depends only on what
its lines say: labels and directives take no room.  A label stands for the end
of the code in front of its line, and the first definition of a name stays.
-/

namespace TealTools.Assembly

/-- The instruction that a line adds to the program. -/
def accepted? : Reading Statement → Option (Instruction (At String))
  | .ok { label := _, body := .instruction (.ok instruction) } =>
    some instruction
  | _ => none

/-- The label that a line tries to define. -/
def label? : Reading Statement → Option (At String)
  | .ok statement => statement.label
  | .error _ => none

/-- An instruction in its place. -/
structure Emitted where
  offset : Nat
  line : Nat
  instruction : Instruction (At String)
  deriving DecidableEq, Repr

/-- Where the code behind an instruction begins. -/
def Emitted.base (emitted : Emitted) : Nat :=
  emitted.offset + emitted.instruction.size

def Placed.emitted? (placed : Placed) : Option Emitted :=
  placed.instruction.map fun (offset, instruction) =>
    { offset, line := placed.line, instruction }

/-- The accepted instructions of placed lines. -/
def emitted (placed : List Placed) : List Emitted :=
  placed.filterMap Placed.emitted?

/-- The instructions that lines add behind code of the given size, the lines
being numbered from the given one. -/
def emittedFrom (offset line : Nat) : List (Reading Statement) → List Emitted
  | [] => []
  | reading :: readings =>
    match accepted? reading with
    | none => emittedFrom offset (line + 1) readings
    | some instruction =>
      { offset, line, instruction } ::
        emittedFrom (offset + instruction.size) (line + 1) readings

/-- The code before any branch is resolved. -/
def draftCode (emitted : List Emitted) : Bytes :=
  emitted.flatMap fun item => item.instruction.draft

/-! ## One line -/

theorem define_eq_ok {site next : Site} {name : String}
    (defined : site.define name = .ok next) :
    site.labels.lookup name = none ∧
      next = { site with labels := site.labels ++ [(name, site.offset)] } := by
  unfold Site.define at defined
  split at defined
  · cases defined
  · split at defined
    · cases defined
    · rename_i unknown
      cases defined
      exact ⟨Option.not_isSome_iff_eq_none.mp unknown, rfl⟩

theorem placeLabel_frame (site : Site) (label : Option (At String)) :
    ∃ labels, (site.placeLabel label).1 = { site with labels := labels } := by
  cases label with
  | none => exact ⟨site.labels, rfl⟩
  | some label =>
      cases defined : site.define label.value with
      | ok next =>
          obtain ⟨_, rfl⟩ := define_eq_ok defined
          simp only [Site.placeLabel, defined]
          exact ⟨_, rfl⟩
      | error fault =>
          simp only [Site.placeLabel, defined]
          exact ⟨site.labels, rfl⟩

/-- A label is either refused, and then nothing changes, or it is new and
stands for the end of the code so far. -/
theorem placeLabel_cases (site : Site) (label : At String) :
    ((site.placeLabel (some label)).1.labels = site.labels ∧
        (site.placeLabel (some label)).2 ≠ []) ∨
      (site.labels.lookup label.value = none ∧
        (site.placeLabel (some label)).1.labels =
          site.labels ++ [(label.value, site.offset)] ∧
        (site.placeLabel (some label)).2 = []) := by
  cases defined : site.define label.value with
  | ok next =>
      have placed : site.placeLabel (some label) = (next, []) := by
        simp only [Site.placeLabel, defined]
      obtain ⟨unknown, rfl⟩ := define_eq_ok defined
      rw [placed]
      exact .inr ⟨unknown, rfl, rfl⟩
  | error fault =>
      have placed :
          site.placeLabel (some label) = (site, [⟨label.column, fault⟩]) := by
        simp only [Site.placeLabel, defined]
      rw [placed]
      exact .inl ⟨rfl, List.cons_ne_nil _ _⟩

@[simp] private theorem labels_placeBody
    (site : Site) (line : Nat) (body : Body) :
    (site.placeBody line body).1.labels = site.labels := by
  unfold Site.placeBody
  split
  · rfl
  · rfl
  · rfl
  · split <;> rfl
  · rfl
  · rfl

theorem labels_place (site : Site) (line : Nat) (reading : Reading Statement) :
    (site.place line reading).1.labels =
      (site.placeLabel (label? reading)).1.labels := by
  cases reading with
  | error fault => rfl
  | ok statement => exact labels_placeBody _ line statement.body

theorem faults_placeLabel_of_place {site : Site} {line : Nat}
    {reading : Reading Statement}
    (clean : (site.place line reading).2.faults = []) :
    (site.placeLabel (label? reading)).2 = [] := by
  cases reading with
  | error fault => rfl
  | ok statement => exact (List.append_eq_nil_iff.mp clean).1

theorem emitted?_place (site : Site) (line : Nat)
    (reading : Reading Statement) :
    (site.place line reading).2.emitted? =
      (accepted? reading).map fun instruction =>
        { offset := site.offset, line, instruction } := by
  cases reading with
  | error fault => rfl
  | ok statement =>
      obtain ⟨label, body⟩ := statement
      obtain ⟨labels, placed⟩ := placeLabel_frame site label
      simp only [Site.place, placed]
      unfold Site.placeBody
      split
      · rfl
      · rfl
      · rfl
      · split <;> rfl
      · rfl
      · rfl

theorem offset_place (site : Site) (line : Nat) (reading : Reading Statement) :
    (site.place line reading).1.offset =
      site.offset + ((accepted? reading).map Instruction.size).getD 0 := by
  cases reading with
  | error fault => rfl
  | ok statement =>
      obtain ⟨label, body⟩ := statement
      obtain ⟨labels, placed⟩ := placeLabel_frame site label
      simp only [Site.place, placed]
      unfold Site.placeBody
      split
      · rfl
      · rfl
      · rfl
      · split <;> rfl
      · rfl
      · rfl

/-! ## All lines -/

theorem placeAll_cons (site : Site) (line : Nat)
    (reading : Reading Statement) (readings : List (Reading Statement)) :
    site.placeAll line (reading :: readings) =
      (((site.place line reading).1.placeAll (line + 1) readings).1,
        (site.place line reading).2 ::
          ((site.place line reading).1.placeAll (line + 1) readings).2) :=
  rfl

@[simp] theorem emitted_placeAll (site : Site) (line : Nat)
    (readings : List (Reading Statement)) :
    emitted (site.placeAll line readings).2 =
      emittedFrom site.offset line readings := by
  induction readings generalizing site line with
  | nil => rfl
  | cons reading readings induction =>
      have head := emitted?_place site line reading
      have tail := induction (site.place line reading).1 (line + 1)
      rw [offset_place] at tail
      simp only [placeAll_cons, emitted, emittedFrom, List.filterMap_cons,
        head] at tail ⊢
      cases found : accepted? reading with
      | none => simpa [found] using tail
      | some instruction => simpa [found] using tail

theorem offset_placeAll (site : Site) (line : Nat)
    (readings : List (Reading Statement)) :
    (site.placeAll line readings).1.offset =
      site.offset +
        (draftCode (emittedFrom site.offset line readings)).length := by
  induction readings generalizing site line with
  | nil => rfl
  | cons reading readings induction =>
      rw [placeAll_cons, induction, offset_place, emittedFrom]
      cases accepted? reading with
      | none => rfl
      | some instruction =>
          simp [draftCode, Instruction.size, Nat.add_assoc]

theorem emittedFrom_append (offset line : Nat)
    (front back : List (Reading Statement)) :
    emittedFrom offset line (front ++ back) =
      emittedFrom offset line front ++
        emittedFrom
          (offset + (draftCode (emittedFrom offset line front)).length)
          (line + front.length) back := by
  induction front generalizing offset line with
  | nil => rfl
  | cons reading front induction =>
      rw [List.cons_append, emittedFrom, emittedFrom, List.length_cons,
        Nat.add_comm front.length 1, ← Nat.add_assoc]
      cases accepted? reading with
      | none => exact induction offset (line + 1)
      | some instruction =>
          simp [induction, draftCode, Instruction.size, Nat.add_assoc]

/-- An instruction comes from the line that it is listed with, and stands
right behind the code of the lines before. -/
theorem mem_emittedFrom {offset line : Nat}
    {readings : List (Reading Statement)} {item : Emitted}
    (member : item ∈ emittedFrom offset line readings) :
    ∃ front reading back,
      readings = front ++ reading :: back ∧
      accepted? reading = some item.instruction ∧
      item.line = line + front.length ∧
      item.offset =
        offset + (draftCode (emittedFrom offset line front)).length := by
  induction readings generalizing offset line with
  | nil => cases member
  | cons reading readings induction =>
      rw [emittedFrom] at member
      cases found : accepted? reading with
      | none =>
          simp only [found] at member
          obtain ⟨front, other, back, split, accepted, numbered, place⟩ :=
            induction member
          refine ⟨reading :: front, other, back, ?_, accepted, ?_, ?_⟩
          · rw [split, List.cons_append]
          · rw [numbered, List.length_cons]
            omega
          · simp only [place, emittedFrom, found]
      | some instruction =>
          simp only [found, List.mem_cons] at member
          rcases member with rfl | member
          · exact ⟨[], reading, readings, rfl, found, rfl, rfl⟩
          · obtain ⟨front, other, back, split, accepted, numbered, place⟩ :=
              induction member
            refine ⟨reading :: front, other, back, ?_, accepted, ?_, ?_⟩
            · rw [split, List.cons_append]
            · rw [numbered, List.length_cons]
              omega
            · simp [place, emittedFrom, found, draftCode, Instruction.size,
                Nat.add_assoc]

theorem emittedFrom_singleton {offset line : Nat}
    {reading : Reading Statement} {instruction : Instruction (At String)}
    (accepted : accepted? reading = some instruction) :
    emittedFrom offset line [reading] = [⟨offset, line, instruction⟩] := by
  simp only [emittedFrom, accepted]

theorem offset_head_emittedFrom {offset line : Nat}
    {readings : List (Reading Statement)} {item : Emitted}
    {more : List Emitted}
    (starts : emittedFrom offset line readings = item :: more) :
    item.offset = offset := by
  induction readings generalizing line with
  | nil => cases starts
  | cons reading readings induction =>
      rw [emittedFrom] at starts
      cases found : accepted? reading with
      | none =>
          simp only [found] at starts
          exact induction starts
      | some instruction =>
          simp only [found, List.cons.injEq] at starts
          rw [← starts.1]

theorem placeAll_append (site : Site) (line : Nat)
    (front back : List (Reading Statement)) :
    site.placeAll line (front ++ back) =
      (((site.placeAll line front).1.placeAll
          (line + front.length) back).1,
        (site.placeAll line front).2 ++
          ((site.placeAll line front).1.placeAll
            (line + front.length) back).2) := by
  induction front generalizing site line with
  | nil => rfl
  | cons reading front induction =>
      rw [List.cons_append, placeAll_cons, placeAll_cons, induction,
        List.length_cons, Nat.add_assoc, Nat.add_comm 1]
      rfl

theorem labels_placeAll_grow (site : Site) (line : Nat)
    (readings : List (Reading Statement)) :
    site.labels <+: (site.placeAll line readings).1.labels := by
  induction readings generalizing site line with
  | nil => exact List.prefix_rfl
  | cons reading readings induction =>
      refine List.IsPrefix.trans ?_
        (induction (site.place line reading).1 (line + 1))
      rw [labels_place]
      cases label? reading with
      | none => exact List.prefix_rfl
      | some label =>
          rcases placeLabel_cases site label with
            ⟨same, _⟩ | ⟨_, more, _⟩
          · exact same.symm ▸ List.prefix_rfl
          · exact more.symm ▸ List.prefix_append _ _

/-- A defined label stands on a line, and stands for the end of the code in
front of that line. -/
theorem mem_labels_placeAll {site : Site} {line : Nat}
    {readings : List (Reading Statement)} {name : String} {target : Nat}
    (known : (name, target) ∈ (site.placeAll line readings).1.labels) :
    (name, target) ∈ site.labels ∨
      ∃ front reading back label,
        readings = front ++ reading :: back ∧
        label? reading = some label ∧ label.value = name ∧
        target = (site.placeAll line front).1.offset := by
  induction readings generalizing site line with
  | nil => exact .inl known
  | cons reading readings induction =>
      rw [placeAll_cons] at known
      rcases induction known with early | later
      · rw [labels_place] at early
        cases found : label? reading with
        | none =>
            rw [found] at early
            exact .inl early
        | some label =>
            rw [found] at early
            rcases placeLabel_cases site label with
              ⟨same, _⟩ | ⟨_, more, _⟩
            · rw [same] at early
              exact .inl early
            · rw [more, List.mem_append, List.mem_singleton] at early
              rcases early with old | new
              · exact .inl old
              · cases new
                exact .inr ⟨[], reading, readings, label, rfl, found, rfl, rfl⟩
      · obtain ⟨front, other, back, label, split, found, named, place⟩ := later
        refine .inr ⟨reading :: front, other, back, label, ?_, found, named,
          place⟩
        rw [split, List.cons_append]

theorem faults_of_mem_placeAll {site : Site} {line : Nat}
    {front back : List (Reading Statement)} {reading : Reading Statement}
    (clean : ∀ placed ∈ (site.placeAll line (front ++ reading :: back)).2,
      placed.faults = []) :
    ((site.placeAll line front).1.place (line + front.length)
      reading).2.faults = [] := by
  apply clean
  rw [placeAll_append]
  exact List.mem_append_right _ List.mem_cons_self

end TealTools.Assembly

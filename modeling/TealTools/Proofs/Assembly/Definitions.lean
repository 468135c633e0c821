import Mathlib.Data.List.Nodup
import TealTools.Proofs.Assembly.Labels
import TealTools.Proofs.Entries

/-!
# Definitions of labels

A line that begins with a name and a colon tries to define a label.  It is
refused if the name is none that a label may have, or if a line in front of it
has been accepted with the same name.  So the labels of a program are the
accepted definitions in their order, and each name has one of them.
-/

namespace TealTools.Assembly

/-- A label that a line tries to define. -/
structure Attempt where
  name : String
  line : Nat
  column : Nat
  /-- The end of the code in front of the line. -/
  target : Nat
  /-- Why the label is refused, if it is. -/
  refusal : Option Fault
  deriving DecidableEq, Repr

/-- Why a label cannot be defined. -/
def Site.refusal? (site : Site) (name : String) : Option Fault :=
  match site.define name with
  | .ok _ => none
  | .error fault => some fault

/-- The label that a line tries to define behind the given site. -/
def attempt? (site : Site) (line : Nat) (reading : Reading Statement) :
    Option Attempt :=
  (label? reading).map fun label =>
    { name := label.value
      line
      column := label.column
      target := site.offset
      refusal := site.refusal? label.value }

/-- The labels that lines try to define, in order. -/
def attemptsFrom (site : Site) (line : Nat) :
    List (Reading Statement) → List Attempt
  | [] => []
  | reading :: readings =>
    (attempt? site line reading).toList ++
      attemptsFrom (site.place line reading).1 (line + 1) readings

/-- The labels that a source text tries to define, in order. -/
def attempts (source : String) : List Attempt :=
  attemptsFrom Site.start 1 (readings source)

/-- The definitions that are accepted. -/
def definitions (source : String) : List Attempt :=
  (attempts source).filter fun attempt => attempt.refusal = none

/-- What accepted definitions add to the labels that are known. -/
def accepted (attempts : List Attempt) : List (String × Nat) :=
  (attempts.filter fun attempt => attempt.refusal = none).map fun attempt =>
    (attempt.name, attempt.target)

theorem refusal?_eq (site : Site) (name : String) :
    site.refusal? name =
      if !isLabelName name then some (.invalidLabel name)
      else if (site.labels.lookup name).isSome then
        some (.duplicateLabel name)
      else none := by
  unfold Site.refusal? Site.define
  split
  · rename_i defined
    split at defined
    · cases defined
    · split at defined
      · cases defined
      · rename_i valid fresh
        rw [if_neg valid, if_neg fresh]
  · rename_i failed
    split at failed
    · rename_i invalid
      cases failed
      rw [if_pos invalid]
    · split at failed
      · rename_i valid known
        cases failed
        rw [if_neg valid, if_pos known]
      · cases failed

theorem refusal?_eq_some {site : Site} {name : String} {cause : Fault}
    (refused : site.refusal? name = some cause) :
    cause = .invalidLabel name ∨ cause = .duplicateLabel name := by
  rw [refusal?_eq] at refused
  split at refused
  · cases refused
    exact .inl rfl
  · split at refused
    · cases refused
      exact .inr rfl
    · cases refused

theorem labels_place_eq (site : Site) (line : Nat)
    (reading : Reading Statement) :
    (site.place line reading).1.labels =
      site.labels ++ accepted (attempt? site line reading).toList := by
  rw [labels_place, attempt?]
  cases label? reading with
  | none => exact (List.append_nil _).symm
  | some label =>
      simp only [Site.placeLabel, accepted, Option.map_some,
        Option.toList_some, Site.refusal?]
      cases defined : site.define label.value with
      | error cause => simp
      | ok next => simp [(define_eq_ok defined).2]

theorem accepted_append (front back : List Attempt) :
    accepted (front ++ back) = accepted front ++ accepted back := by
  simp [accepted]

theorem labels_placeAll_eq (site : Site) (line : Nat)
    (readings : List (Reading Statement)) :
    (site.placeAll line readings).1.labels =
      site.labels ++ accepted (attemptsFrom site line readings) := by
  induction readings generalizing site line with
  | nil => exact (List.append_nil _).symm
  | cons reading readings induction =>
      rw [placeAll_cons, induction, labels_place_eq, attemptsFrom,
        accepted_append, List.append_assoc]

/-- A line tries to define its label behind the lines in front of it. -/
private theorem mem_attemptsFrom {site : Site} {line : Nat}
    {readings : List (Reading Statement)} {attempt : Attempt} :
    attempt ∈ attemptsFrom site line readings ↔
      ∃ front reading back, readings = front ++ reading :: back ∧
        attempt? (site.placeAll line front).1 (line + front.length) reading =
          some attempt := by
  induction readings generalizing site line with
  | nil => simp [attemptsFrom]
  | cons first readings induction =>
      rw [attemptsFrom, List.mem_append, Option.mem_toList, induction]
      constructor
      · rintro (here | ⟨front, reading, back, rfl, later⟩)
        · exact ⟨[], first, readings, rfl, here⟩
        · refine ⟨first :: front, reading, back, rfl, ?_⟩
          rw [placeAll_cons, List.length_cons, Nat.add_comm front.length,
            ← Nat.add_assoc]
          exact later
      · rintro ⟨front, reading, back, split, tried⟩
        cases front with
        | nil =>
            obtain ⟨rfl, rfl⟩ := List.cons.inj split
            exact .inl tried
        | cons other front =>
            obtain ⟨rfl, rfl⟩ := List.cons.inj split
            rw [placeAll_cons, List.length_cons, Nat.add_comm front.length,
              ← Nat.add_assoc] at tried
            exact .inr ⟨front, reading, back, rfl, tried⟩

/-- An attempt is judged by the definitions accepted in front of it. -/
theorem refusal_of_split {site : Site} {line : Nat}
    {readings : List (Reading Statement)} {front back : List Attempt}
    {attempt : Attempt}
    (split : attemptsFrom site line readings = front ++ attempt :: back) :
    ∃ here : Site, here.labels = site.labels ++ accepted front ∧
      attempt.refusal = here.refusal? attempt.name := by
  induction readings generalizing site line front with
  | nil =>
      have := congrArg List.length split
      simp [attemptsFrom] at this
  | cons reading readings induction =>
      rw [attemptsFrom] at split
      have known := labels_place_eq site line reading
      cases found : attempt? site line reading with
      | none =>
          rw [found] at split known
          obtain ⟨here, labels, refusal⟩ := induction split
          refine ⟨here, ?_, refusal⟩
          rw [labels, known]
          simp [accepted]
      | some first =>
          rw [found] at split known
          cases front with
          | nil =>
              obtain ⟨label, _, own⟩ := Option.map_eq_some_iff.mp found
              obtain rfl : first = attempt := (List.cons.inj split).1
              refine ⟨site, (List.append_nil _).symm, ?_⟩
              rw [← own]
          | cons other front =>
              obtain ⟨rfl, rest⟩ := List.cons.inj split
              obtain ⟨here, labels, refusal⟩ := induction rest
              refine ⟨here, ?_, refusal⟩
              rw [labels, known, List.append_assoc, ← accepted_append]
              rfl

private theorem mem_names_accepted {attempts : List Attempt} {name : String} :
    name ∈ (accepted attempts).map (·.1) ↔
      ∃ attempt ∈ attempts, attempt.refusal = none ∧ attempt.name = name := by
  simp [accepted, and_assoc]

/-- A line never defines a known name again. -/
private theorem nodup_labels_place {site : Site}
    (distinct : (site.labels.map (·.1)).Nodup) (line : Nat)
    (reading : Reading Statement) :
    ((site.place line reading).1.labels.map (·.1)).Nodup := by
  rw [labels_place]
  cases label? reading with
  | none => exact distinct
  | some label =>
      rcases placeLabel_cases site label with ⟨same, _⟩ | ⟨fresh, added, _⟩
      · rw [same]
        exact distinct
      · have unknown : label.value ∉ site.labels.map (·.1) := by
          rw [← Entries.lookup_isSome_iff, fresh]
          exact Bool.false_ne_true
        rw [added, List.map_append, List.nodup_append]
        refine ⟨distinct, List.nodup_singleton _, ?_⟩
        intro name member other own same
        rw [same, List.mem_singleton.mp own] at member
        exact unknown member

theorem nodup_labels_placeAll {site : Site}
    (distinct : (site.labels.map (·.1)).Nodup) (line : Nat)
    (readings : List (Reading Statement)) :
    ((site.placeAll line readings).1.labels.map (·.1)).Nodup := by
  induction readings generalizing site line with
  | nil => exact distinct
  | cons reading readings induction =>
      rw [placeAll_cons]
      exact induction (nodup_labels_place distinct line reading) (line + 1)

section

variable {source : String}

/-- Which labels are accepted, and why the others are not. -/
theorem refusal_eq {front back : List Attempt} {attempt : Attempt}
    (split : attempts source = front ++ attempt :: back) :
    attempt.refusal =
      if !isLabelName attempt.name then some (.invalidLabel attempt.name)
      else if ∃ first ∈ front, first.refusal = none ∧
          first.name = attempt.name then
        some (.duplicateLabel attempt.name)
      else none := by
  obtain ⟨here, labels, refusal⟩ := refusal_of_split split
  have known : (here.labels.lookup attempt.name).isSome ↔
      ∃ first ∈ front, first.refusal = none ∧ first.name = attempt.name := by
    rw [Entries.lookup_isSome_iff, labels]
    exact mem_names_accepted
  rw [refusal, refusal?_eq]
  simp only [known]

/-- The lines that try to define a label are those that begin with its name
and a colon. -/
theorem exists_attempt_iff {name : String} {number : Nat} :
    (∃ attempt ∈ attempts source,
        attempt.name = name ∧ attempt.line = number) ↔
      DefinedOn source name number := by
  rw [definedOn_iff]
  constructor
  · rintro ⟨attempt, member, rfl, rfl⟩
    obtain ⟨front, reading, back, split, tried⟩ := mem_attemptsFrom.mp member
    obtain ⟨label, found, rfl⟩ := Option.map_eq_some_iff.mp tried
    exact ⟨front, reading, back, label, split, Nat.add_comm _ _, found, rfl⟩
  · rintro ⟨front, reading, back, label, split, rfl, found, rfl⟩
    obtain ⟨attempt, tried, named, placed⟩ : ∃ attempt,
        attempt? (Site.start.placeAll 1 front).1 (1 + front.length) reading =
          some attempt ∧
        attempt.name = label.value ∧ attempt.line = front.length + 1 := by
      rw [attempt?, found]
      exact ⟨_, rfl, rfl, Nat.add_comm _ _⟩
    exact ⟨attempt, mem_attemptsFrom.mpr ⟨front, reading, back, split, tried⟩,
      named, placed⟩

theorem labels_lastSite : (lastSite source).labels =
    (definitions source).map fun definition =>
      (definition.name, definition.target) :=
  labels_placeAll_eq Site.start 1 (readings source)

variable (source) in
theorem nodup_lastSite : ((lastSite source).labels.map (·.1)).Nodup := by
  have start : (Site.start.labels.map (·.1)).Nodup := .nil
  exact nodup_labels_placeAll start 1 (readings source)

/-- No name is accepted twice. -/
theorem nodup_definitions :
    ((definitions source).map Attempt.name).Nodup := by
  have distinct := nodup_lastSite source
  rw [labels_lastSite, List.map_map] at distinct
  exact distinct

/-- The definition that is accepted stays in force. -/
theorem lookup_of_definition {definition : Attempt}
    (member : definition ∈ definitions source) :
    (lastSite source).labels.lookup definition.name =
      some definition.target := by
  apply Entries.lookup_of_mem
  · exact nodup_lastSite source
  · rw [labels_lastSite]
    exact List.mem_map_of_mem member

theorem lookup_eq_some {name : String} {target : Nat}
    (known : (lastSite source).labels.lookup name = some target) :
    ∃ definition ∈ definitions source,
      definition.name = name ∧ definition.target = target := by
  obtain ⟨front, back, labels, _⟩ := List.lookup_eq_some_iff.mp known
  have member : (name, target) ∈ (lastSite source).labels := by
    rw [labels]
    exact List.mem_append_right front List.mem_cons_self
  rw [labels_lastSite] at member
  obtain ⟨definition, listed, same⟩ := List.mem_map.mp member
  cases same
  exact ⟨definition, listed, rfl, rfl⟩

theorem lookup_eq_none_iff_forall {name : String} :
    (lastSite source).labels.lookup name = none ↔
      ∀ definition ∈ definitions source, definition.name ≠ name := by
  rw [← Option.not_isSome_iff_eq_none, Entries.lookup_isSome_iff,
    labels_lastSite]
  simp

end

end TealTools.Assembly

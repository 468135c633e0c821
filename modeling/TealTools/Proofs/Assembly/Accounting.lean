import TealTools.Proofs.Assembly.Branches
import TealTools.Proofs.Assembly.Definitions
import TealTools.Proofs.Assembly.Trouble

/-!
# Labels accounted for

Definitions and uses of labels are collected line by line and compared once all
lines have been placed.  Every use without a definition, every use out of
reach and every repeated definition is reported once and at its place, and
nothing else is reported in their terms.  The warnings name the definitions
that nothing uses.
-/

namespace TealTools.Assembly

/-- The targets of all accepted instructions. -/
def uses (source : String) : List Reference :=
  references (program source)

/-- The target lies too far from the end of the instruction. -/
def Reference.OutOfReach (reference : Reference) (target : Nat) : Prop :=
  (target : Int) - reference.base < -32768 ∨
    32767 < (target : Int) - reference.base

instance (reference : Reference) (target : Nat) :
    Decidable (reference.OutOfReach target) :=
  inferInstanceAs (Decidable (_ ∨ _))

/-- The faults that report a trouble. -/
def faultsOf (trouble : Trouble) (source : String) : List LineFault :=
  (assemble source).faults.filter fun fault =>
    fault.cause.trouble? = some trouble

/-- The label that a warning names. -/
def Warning.unusedName? : Warning → Option String
  | unusedLabel name => some name
  | missingVersion _ => none

/-- A fault at the place where a target is named. -/
def Reference.fault (reference : Reference) (cause : Fault) : LineFault :=
  ⟨reference.line, reference.target.column, cause⟩

/-- A fault at the place where a label is defined. -/
def Attempt.fault (attempt : Attempt) (cause : Fault) : LineFault :=
  ⟨attempt.line, attempt.column, cause⟩

def Attempt.fault? (attempt : Attempt) : Option LineFault :=
  attempt.refusal.map attempt.fault

def Reference.fault? (labels : List (String × Nat)) (reference : Reference) :
    Option LineFault :=
  match branchOffset labels reference.base reference.target.value with
  | .ok _ => none
  | .error cause => some (reference.fault cause)

/-! ## The faults of one line -/

private theorem fault?_attempt? (site : Site) (line : Nat)
    (reading : Reading Statement) :
    (site.placeLabel (label? reading)).2.map
        (fun fault => (⟨line, fault.column, fault.value⟩ : LineFault)) =
      (attempt? site line reading).toList.filterMap Attempt.fault? := by
  rw [attempt?]
  cases label? reading with
  | none => rfl
  | some label =>
      simp only [Site.placeLabel, Option.map_some, Option.toList_some,
        List.filterMap_cons, List.filterMap_nil, Attempt.fault?,
        Site.refusal?]
      cases site.define label.value <;> rfl

/-- The branches of a placed line that cannot be resolved. -/
private theorem branchFaults_eq
    (labels : List (String × Nat)) (placed : Placed) :
    (placed.branchFaults labels).map
        (fun fault => (⟨placed.line, fault.column, fault.value⟩ : LineFault)) =
      (placed.emitted?.toList.flatMap Emitted.references).filterMap
        (Reference.fault? labels) := by
  rw [Placed.branchFaults, Placed.emitted?]
  cases placed.instruction with
  | none => rfl
  | some pair =>
      obtain ⟨offset, instruction⟩ := pair
      simp only [Option.map_some, Option.toList_some, List.flatMap_cons,
        List.flatMap_nil, List.append_nil, Emitted.references,
        ← Instruction.map_snd_slots, List.filterMap_map, List.map_filterMap]
      congr 1
      funext slot
      simp only [Function.comp_apply, Reference.fault?, Emitted.base]
      cases branchOffset labels (offset + instruction.size) slot.2.value <;>
        rfl

/-! ## The faults of all lines -/

/-- A trouble is found either with the labels or with the targets of a
line. -/
private theorem filter_allFaults_place (trouble : Trouble)
    (labels : List (String × Nat)) (site : Site) (line : Nat)
    (text : List Char) :
    ((site.place line (readLine text)).2.allFaults labels).filter
        (fun fault => fault.cause.trouble? = some trouble) =
      ((attempt? site line (readLine text)).toList.filterMap
          Attempt.fault?).filter
        (fun fault => fault.cause.trouble? = some trouble) ++
      (((site.place line (readLine text)).2.emitted?.toList.flatMap
          Emitted.references).filterMap (Reference.fault? labels)).filter
        fun fault => fault.cause.trouble? = some trouble := by
  rw [Placed.allFaults, List.map_append, List.filter_append, branchFaults_eq,
    ← fault?_attempt?, line_place, List.filter_map, List.filter_map]
  congr 2
  exact filter_faults_place trouble site line text

private theorem branchOffset_eq_error_cases {labels : List (String × Nat)}
    {base : Nat} {name : String} {cause : Fault}
    (failed : branchOffset labels base name = .error cause) :
    (cause = .undefinedLabel name ∧ labels.lookup name = none) ∨
      ∃ target, cause = .branchTooFar name ∧
        labels.lookup name = some target ∧
        ((target : Int) - base < -32768 ∨ 32767 < (target : Int) - base) := by
  unfold branchOffset at failed
  split at failed
  · rename_i unknown
    cases failed
    exact .inl ⟨rfl, unknown⟩
  · rename_i target known
    simp only at failed
    split at failed
    · cases failed
    · rename_i outside
      cases failed
      refine .inr ⟨target, rfl, known, ?_⟩
      omega

/-- Labels are never reported as targets are. -/
private theorem filter_attempts_eq_nil {trouble : Trouble}
    (other : trouble ≠ .duplicate) (site : Site) (line : Nat)
    (reading : Reading Statement) :
    ((attempt? site line reading).toList.filterMap Attempt.fault?).filter
      (fun fault => fault.cause.trouble? = some trouble) = [] := by
  rw [List.filter_eq_nil_iff]
  intro fault member
  obtain ⟨attempt, own, refused⟩ := List.mem_filterMap.mp member
  obtain ⟨cause, refusal, rfl⟩ := Option.map_eq_some_iff.mp refused
  obtain ⟨label, _, rfl⟩ :=
    Option.map_eq_some_iff.mp (Option.mem_toList.mp own)
  rcases refusal?_eq_some refusal with rfl | rfl
  · simp [Attempt.fault, Fault.trouble?]
  · simpa [Attempt.fault, Fault.trouble?] using other.symm

/-- Targets are never reported as labels are. -/
private theorem filter_references_eq_nil (labels : List (String × Nat))
    (references : List Reference) :
    (references.filterMap (Reference.fault? labels)).filter
      (fun fault => fault.cause.trouble? = some .duplicate) = [] := by
  rw [List.filter_eq_nil_iff]
  intro fault member
  obtain ⟨reference, _, failed⟩ := List.mem_filterMap.mp member
  unfold Reference.fault? at failed
  split at failed
  · cases failed
  · rename_i cause unresolved
    cases failed
    rcases branchOffset_eq_error_cases unresolved with
      ⟨rfl, _⟩ | ⟨_, rfl, _⟩ <;> simp [Reference.fault, Fault.trouble?]

theorem duplicates_placeAll (labels : List (String × Nat)) (site : Site)
    (line : Nat) (lines : List (List Char)) :
    ((site.placeAll line (lines.map readLine)).2.flatMap
        (Placed.allFaults labels)).filter
        (fun fault => fault.cause.trouble? = some .duplicate) =
      ((attemptsFrom site line (lines.map readLine)).filterMap
        Attempt.fault?).filter
        fun fault => fault.cause.trouble? = some .duplicate := by
  induction lines generalizing site line with
  | nil => rfl
  | cons text lines induction =>
      rw [List.map_cons, placeAll_cons, List.flatMap_cons, List.filter_append,
        filter_allFaults_place, filter_references_eq_nil, List.append_nil,
        induction, attemptsFrom, List.filterMap_append, List.filter_append]

theorem branches_placeAll {trouble : Trouble} (other : trouble ≠ .duplicate)
    (labels : List (String × Nat)) (site : Site) (line : Nat)
    (lines : List (List Char)) :
    ((site.placeAll line (lines.map readLine)).2.flatMap
        (Placed.allFaults labels)).filter
        (fun fault => fault.cause.trouble? = some trouble) =
      ((references (emitted (site.placeAll line
        (lines.map readLine)).2)).filterMap (Reference.fault? labels)).filter
        fun fault => fault.cause.trouble? = some trouble := by
  induction lines generalizing site line with
  | nil => rfl
  | cons text lines induction =>
      rw [List.map_cons, placeAll_cons, List.flatMap_cons, List.filter_append,
        filter_allFaults_place, filter_attempts_eq_nil other, List.nil_append,
        induction, emitted, emitted, List.filterMap_cons]
      cases (site.place line (readLine text)).2.emitted? with
      | none => rfl
      | some item =>
          simp [references, List.filterMap_append, List.filter_append]

/-! ## Uses -/

section

variable {source : String}

private theorem filter_filterMap_eq_map {α β : Type} {first : α → Option β}
    {keep : β → Bool} {chosen : α → Bool} {made : α → β} {items : List α}
    (each : ∀ item ∈ items, (first item).filter keep =
      if chosen item then some (made item) else none) :
    (items.filterMap first).filter keep = (items.filter chosen).map made := by
  rw [List.filter_filterMap, List.filterMap_congr each,
    ← List.filterMap_eq_map, List.filterMap_filter]
  rfl

private theorem faultsOf_eq_references {trouble : Trouble}
    (other : trouble ≠ .duplicate) :
    faultsOf trouble source =
      ((uses source).filterMap
        (Reference.fault? (lastSite source).labels)).filter
          fun fault => fault.cause.trouble? = some trouble := by
  rw [uses, ← emitted_placedLines]
  exact branches_placeAll other _ Site.start 1 (Text.lines source.toList)

/-- Every use of a name without a definition is reported once. -/
theorem undefined_eq :
    faultsOf .undefined source =
      ((uses source).filter fun use => ∀ definition ∈ definitions source,
        definition.name ≠ use.target.value).map fun use =>
          use.fault (.undefinedLabel use.target.value) := by
  rw [faultsOf_eq_references (by decide)]
  apply filter_filterMap_eq_map
  intro use _
  simp only [← lookup_eq_none_iff_forall, decide_eq_true_eq]
  unfold Reference.fault?
  split
  · rename_i offset resolved
    obtain ⟨target, known, _⟩ := branchOffset_eq_ok resolved
    simp [known]
  · rename_i cause unresolved
    rcases branchOffset_eq_error_cases unresolved with
      ⟨rfl, unknown⟩ | ⟨target, rfl, known, _⟩
    · simp [unknown, Reference.fault, Fault.trouble?]
    · simp [known, Reference.fault, Fault.trouble?]

/-- Every use that is too far from its definition is reported once. -/
theorem tooFar_eq :
    faultsOf .tooFar source =
      ((uses source).filter fun use => ∃ definition ∈ definitions source,
        definition.name = use.target.value ∧
          use.OutOfReach definition.target).map fun use =>
            use.fault (.branchTooFar use.target.value) := by
  rw [faultsOf_eq_references (by decide)]
  apply filter_filterMap_eq_map
  intro use _
  have reach : (∃ definition ∈ definitions source,
      definition.name = use.target.value ∧
        use.OutOfReach definition.target) ↔
      ∃ target, (lastSite source).labels.lookup use.target.value =
        some target ∧ use.OutOfReach target := by
    constructor
    · rintro ⟨definition, member, named, outside⟩
      exact ⟨_, named ▸ lookup_of_definition member, outside⟩
    · rintro ⟨target, known, outside⟩
      obtain ⟨definition, member, named, rfl⟩ := lookup_eq_some known
      exact ⟨definition, member, named, outside⟩
  simp only [reach, decide_eq_true_eq]
  unfold Reference.fault?
  split
  · rename_i offset resolved
    have inside : ¬ ∃ target, (lastSite source).labels.lookup
        use.target.value = some target ∧ use.OutOfReach target := by
      rintro ⟨target, known, outside⟩
      obtain ⟨other, same, sum⟩ := branchOffset_eq_ok resolved
      rw [known, Option.some.injEq] at same
      have := offset.toInt_lt
      have := offset.le_toInt
      unfold Reference.OutOfReach at outside
      omega
    rw [if_neg inside]
    rfl
  · rename_i cause unresolved
    rcases branchOffset_eq_error_cases unresolved with
      ⟨rfl, unknown⟩ | ⟨target, rfl, known, outside⟩
    · simp [unknown, Reference.fault, Fault.trouble?]
    · have far : ∃ target, (lastSite source).labels.lookup
          use.target.value = some target ∧ use.OutOfReach target :=
        ⟨target, known, outside⟩
      rw [if_pos far]
      rfl

theorem unused_eq :
    (assemble source).warnings.filterMap Warning.unusedName? =
      ((definitions source).map Attempt.name).filter fun name =>
        ∀ use ∈ uses source, use.target.value ≠ name := by
  have warnings : (assemble source).warnings =
      (if (lastSite source).version.isNone then
        [Warning.missingVersion defaultVersion] else []) ++
      (unusedLabels (lastSite source).labels
        (placedLines source)).map .unusedLabel := rfl
  have missing : (if (lastSite source).version.isNone then
      [Warning.missingVersion defaultVersion] else []).filterMap
        Warning.unusedName? = [] := by
    split <;> rfl
  have names : (lastSite source).labels.map (·.1) =
      (definitions source).map Attempt.name := by
    rw [labels_lastSite, List.map_map]
    rfl
  have used : (placedLines source).flatMap
      (fun line => line.references.map At.value) =
        (uses source).map fun use => use.target.value := by
    rw [← List.map_flatMap, ← map_target_references, emitted_placedLines,
      List.map_map]
    rfl
  rw [warnings, List.filterMap_append, missing, List.nil_append,
    List.filterMap_map, unusedLabels, names, used]
  have keep : Warning.unusedName? ∘ Warning.unusedLabel = some := rfl
  rw [keep, List.filterMap_some]
  apply List.filter_congr
  intro name _
  rw [Bool.eq_iff_iff]
  simp

/-! ## Repeated definitions -/

/-- Every definition that is refused as a repetition is reported once. -/
theorem duplicate_eq :
    faultsOf .duplicate source =
      ((attempts source).filter fun attempt =>
        attempt.refusal = some (.duplicateLabel attempt.name)).map
          fun attempt => attempt.fault (.duplicateLabel attempt.name) := by
  have all : faultsOf .duplicate source =
      ((attempts source).filterMap Attempt.fault?).filter
        fun fault => fault.cause.trouble? = some .duplicate :=
    duplicates_placeAll _ Site.start 1 (Text.lines source.toList)
  rw [all]
  apply filter_filterMap_eq_map
  intro attempt member
  obtain ⟨front, back, split⟩ := List.append_of_mem member
  obtain ⟨here, _, judged⟩ := refusal_of_split split
  unfold Attempt.fault?
  cases refusal : attempt.refusal with
  | none => rfl
  | some cause =>
      rw [refusal] at judged
      rcases refusal?_eq_some judged.symm with rfl | rfl
      · simp [Attempt.fault, Fault.trouble?]
      · simp [Attempt.fault, Fault.trouble?]

/-- A name that has been accepted is refused from then on. -/
theorem duplicate_of_accepted {front back : List Attempt}
    {first attempt : Attempt}
    (split : attempts source = front ++ attempt :: back)
    (early : first ∈ front) (free : first.refusal = none)
    (same : first.name = attempt.name) :
    attempt.refusal = some (.duplicateLabel attempt.name) := by
  cases valid : isLabelName attempt.name with
  | true =>
      rw [refusal_eq split, valid, Bool.not_true, if_neg Bool.false_ne_true,
        if_pos ⟨first, early, free, same⟩]
  | false =>
      -- Then the first definition would have been refused as well.
      obtain ⟨before, behind, own⟩ := List.append_of_mem early
      rw [own, List.append_assoc, List.cons_append] at split
      have judged := refusal_eq split
      rw [free, same, valid] at judged
      cases judged

/-- A target within reach leads to the definition of its name. -/
theorem leads_to_definition {use : Reference} {definition : Attempt}
    (member : use ∈ uses source) (listed : definition ∈ definitions source)
    (named : definition.name = use.target.value)
    (inside : ¬ use.OutOfReach definition.target) :
    ∃ high low, (code source)[use.slot]? = some high ∧
      (code source)[use.slot + 1]? = some low ∧
      (use.base : Int) + Operand.decodeOffset high low =
        definition.target := by
  have known := lookup_of_definition listed
  rw [named] at known
  cases resolved : branchOffset (lastSite source).labels use.base
      use.target.value with
  | error cause =>
      rcases branchOffset_eq_error_cases resolved with
        ⟨_, unknown⟩ | ⟨target, _, same, outside⟩
      · rw [known] at unknown
        cases unknown
      · rw [known, Option.some.injEq] at same
        exact (inside (same ▸ outside)).elim
  | ok offset =>
      obtain ⟨target, same, sum⟩ := branchOffset_eq_ok resolved
      rw [known, Option.some.injEq] at same
      obtain ⟨high, low, bytes, value⟩ :=
        Operand.decodeOffset_encodeOffset offset
      have written := (filled_program source).written _
        (List.mem_map_of_mem member)
      rw [Reference.content, resolved] at written
      have window := getElem?_of_take_two (written.trans bytes)
      exact ⟨high, low, window.1, window.2, by rw [value, sum, same]⟩

end

/-! ## Programs -/

/-- What is reported about the labels of a source text, and what its targets
lead to. -/
structure LabelsAccounted (source : String) : Prop where
  /-- A line tries to define a label if it begins with it. -/
  tried : ∀ name number,
    (∃ attempt ∈ attempts source,
      attempt.name = name ∧ attempt.line = number) ↔
        DefinedOn source name number
  undefined : faultsOf .undefined source =
    ((uses source).filter fun use => ∀ definition ∈ definitions source,
      definition.name ≠ use.target.value).map fun use =>
        use.fault (.undefinedLabel use.target.value)
  tooFar : faultsOf .tooFar source =
    ((uses source).filter fun use => ∃ definition ∈ definitions source,
      definition.name = use.target.value ∧
        use.OutOfReach definition.target).map fun use =>
          use.fault (.branchTooFar use.target.value)
  unused : (assemble source).warnings.filterMap Warning.unusedName? =
    ((definitions source).map Attempt.name).filter fun name =>
      ∀ use ∈ uses source, use.target.value ≠ name
  distinct : ((definitions source).map Attempt.name).Nodup
  duplicate : faultsOf .duplicate source =
    ((attempts source).filter fun attempt =>
      attempt.refusal = some (.duplicateLabel attempt.name)).map
        fun attempt => attempt.fault (.duplicateLabel attempt.name)
  /-- The first definition of a name refuses all later ones. -/
  repeated : ∀ front attempt back,
    attempts source = front ++ attempt :: back →
    (∃ first ∈ front, first.refusal = none ∧ first.name = attempt.name) →
      attempt.refusal = some (.duplicateLabel attempt.name)
  /-- The first definition stays in force. -/
  inForce : ∀ use ∈ uses source, ∀ definition ∈ definitions source,
    definition.name = use.target.value →
    ¬ use.OutOfReach definition.target →
      ∃ high low, (code source)[use.slot]? = some high ∧
        (code source)[use.slot + 1]? = some low ∧
        (use.base : Int) + Operand.decodeOffset high low = definition.target

/-- Every disagreement between the definitions and the uses of labels is
reported once and at its place, no other is reported, and the warnings name
what nothing uses. -/
theorem labels_are_accounted_for (source : String) :
    LabelsAccounted source where
  tried _ _ := exists_attempt_iff
  undefined := undefined_eq
  tooFar := tooFar_eq
  unused := unused_eq
  distinct := nodup_definitions
  duplicate := duplicate_eq
  repeated _ _ _ split early := by
    obtain ⟨first, member, free, same⟩ := early
    exact duplicate_of_accepted split member free same
  inForce _ member _ listed named inside :=
    leads_to_definition member listed named inside

/-- The label `a` is defined twice, `x` nowhere, and nothing uses `c`. -/
def disputedSource : String :=
  "a:\na: switch x a\nc:"

theorem labels_are_accounted_for_disputedSource :
    faultsOf .undefined disputedSource = [⟨2, 11, .undefinedLabel "x"⟩] ∧
      faultsOf .tooFar disputedSource = [] ∧
      faultsOf .duplicate disputedSource = [⟨2, 1, .duplicateLabel "a"⟩] ∧
      (assemble disputedSource).warnings.filterMap Warning.unusedName? =
        ["c"] ∧
      ∃ high low, (code disputedSource)[4]? = some high ∧
        (code disputedSource)[5]? = some low ∧
        6 + Operand.decodeOffset high low = 0 := by
  have accounted := labels_are_accounted_for disputedSource
  refine ⟨?_, ?_, ?_, ?_, ?_⟩
  · rw [accounted.undefined]
    decide +kernel
  · rw [accounted.tooFar]
    decide +kernel
  · rw [accounted.duplicate]
    decide +kernel
  · rw [accounted.unused]
    decide +kernel
  · exact accounted.inForce ⟨⟨13, "a"⟩, 2, 0, 6, 4⟩ (by decide +kernel)
      ⟨"a", 1, 1, 0, none⟩ (by decide +kernel) rfl (by decide)

end TealTools.Assembly

import TealTools.Debugger.Session

/-!
# Putting sessions together

A session consists of options, at most one of each kind.  Options that come in
the order of their kinds are always accepted.
-/

namespace TealTools.Debugger

inductive OptionKind where
  | log
  | config
  | live
  | recorded
  deriving DecidableEq, Repr

def OptionKind.order : List OptionKind := [.log, .config, .live, .recorded]

def OptionKind.Before (earlier later : OptionKind) : Prop :=
  OptionKind.order.idxOf earlier < OptionKind.order.idxOf later
  deriving Decidable

def SessionOption.kind : SessionOption → OptionKind
  | .log _ => .log
  | .config _ => .config
  | .live _ => .live
  | .recorded _ => .recorded

namespace Session

/-- The options that a session is put together from. -/
def options (session : Session) : List SessionOption :=
  session.log.toList.map .log ++ (session.config.toList.map .config ++
    session.live.toList.map .live ++ session.recorded.toList.map .recorded)

private theorem kinds_sublist {α : Type} {kind : OptionKind}
    (option : α → SessionOption) (same : ∀ value, (option value).kind = kind)
    (given : Option α) :
    ((given.toList.map option).map SessionOption.kind).Sublist [kind] := by
  cases given with
  | none => exact List.nil_sublist _
  | some value =>
      simp only [Option.toList_some, List.map_cons, List.map_nil, same,
        List.Sublist.refl]

theorem options_ordered (session : Session) :
    (session.options.map SessionOption.kind).Sublist OptionKind.order := by
  simp only [options, List.map_append]
  have log := kinds_sublist .log (fun _ => rfl) session.log
  have config := kinds_sublist .config (fun _ => rfl) session.config
  have live := kinds_sublist .live (fun _ => rfl) session.live
  have recorded := kinds_sublist .recorded (fun _ => rfl) session.recorded
  exact log.append ((config.append live).append recorded)

variable {session : Session}

@[simp] theorem log_mem_options_iff {log : TrafficLog} :
    .log log ∈ session.options ↔ session.log = some log := by
  simp [options]

@[simp] theorem config_mem_options_iff {config : Config} :
    .config config ∈ session.options ↔ session.config = some config := by
  simp [options]

@[simp] theorem live_mem_options_iff {endpoint : Node.Endpoint} :
    .live endpoint ∈ session.options ↔ session.live = some endpoint := by
  simp [options]

@[simp] theorem recorded_mem_options_iff {simulation : Simulation} :
    .recorded simulation ∈ session.options ↔
      session.recorded = some simulation := by
  simp [options]

private theorem eq_none_of_before {α : Type} {option : α → SessionOption}
    {part : Option α} {kind next : OptionKind}
    (member : ∀ value, option value ∈ session.options ↔ part = some value)
    (same : ∀ value, (option value).kind = kind)
    (before : ∀ other ∈ session.options, other.kind.Before next)
    (late : ¬kind.Before next) : part = none := by
  rw [Option.eq_none_iff_forall_ne_some]
  intro value given
  have earlier := before _ ((member value).mpr given)
  rw [same value] at earlier
  exact late earlier

/-- Nothing in the session is of a kind or of a later one. -/
def IsFreeFrom (session : Session) : OptionKind → Prop
  | .log => session = empty
  | .config =>
      session.config = none ∧ session.live = none ∧ session.recorded = none
  | .live => session.live = none ∧ session.recorded = none
  | .recorded => session.recorded = none

private theorem isFreeFrom_of_before {kind : OptionKind}
    (before : ∀ other ∈ session.options, other.kind.Before kind) :
    session.IsFreeFrom kind := by
  have noRecorded : session.recorded = none := by
    apply eq_none_of_before (fun _ => recorded_mem_options_iff)
      (fun _ => rfl) before
    cases kind <;> decide
  have noLive : ¬OptionKind.live.Before kind → session.live = none :=
    eq_none_of_before (fun _ => live_mem_options_iff) (fun _ => rfl) before
  have noConfig : ¬OptionKind.config.Before kind → session.config = none :=
    eq_none_of_before (fun _ => config_mem_options_iff) (fun _ => rfl) before
  have noLog : ¬OptionKind.log.Before kind → session.log = none :=
    eq_none_of_before (fun _ => log_mem_options_iff) (fun _ => rfl) before
  cases kind with
  | log =>
      obtain ⟨log, config, live, recorded⟩ := session
      cases noLog (by decide)
      cases noConfig (by decide)
      cases noLive (by decide)
      cases noRecorded
      rfl
  | config => exact ⟨noConfig (by decide), noLive (by decide), noRecorded⟩
  | live => exact ⟨noLive (by decide), noRecorded⟩
  | recorded => exact noRecorded

private theorem apply_of_isFreeFrom {option : SessionOption}
    (free : session.IsFreeFrom option.kind) :
    ∃ next, session.apply option = .ok next ∧
      next.options = session.options ++ [option] := by
  cases option with
  | log log =>
      cases (free : session = empty)
      exact ⟨{ empty with log := some log }, rfl, rfl⟩
  | config config =>
      obtain ⟨noConfig, noLive, noRecorded⟩ := free
      refine ⟨{ session with config := some config }, ?_, ?_⟩
      · simp only [apply, noConfig, noLive, noRecorded]
        rfl
      · simp [options, noConfig, noLive, noRecorded]
  | live endpoint =>
      obtain ⟨noLive, noRecorded⟩ := free
      refine ⟨{ session with live := some endpoint }, ?_, ?_⟩
      · simp only [apply, noLive]
        rfl
      · simp [options, noLive, noRecorded]
  | recorded simulation =>
      have noRecorded : session.recorded = none := free
      refine ⟨{ session with recorded := some simulation }, ?_, ?_⟩
      · simp only [apply, noRecorded]
        rfl
      · simp [options, noRecorded]

theorem applyAll_of_ordered (session : Session) {options : List SessionOption}
    (ordered : (session.options ++ options).Pairwise
      fun earlier later => earlier.kind.Before later.kind) :
    ∃ final, session.applyAll options = .ok final ∧
      final.options = session.options ++ options := by
  -- What the session holds already counts as the front of the options.
  induction options generalizing session with
  | nil => exact ⟨session, rfl, (List.append_nil _).symm⟩
  | cons option options induction =>
      have before : ∀ other ∈ session.options,
          other.kind.Before option.kind := by
        intro other member
        exact (List.pairwise_append.mp ordered).2.2 other member option
          List.mem_cons_self
      obtain ⟨next, applied, gained⟩ :=
        apply_of_isFreeFrom (isFreeFrom_of_before before)
      have rest : next.options ++ options =
          session.options ++ option :: options := by
        rw [gained, List.append_assoc, List.singleton_append]
      obtain ⟨final, finished, complete⟩ := induction next (rest ▸ ordered)
      refine ⟨final, ?_, complete.trans rest⟩
      rw [applyAll, applied]
      exact finished

/-- Options in the order of their kinds, none of them twice, make a session
that consists of them. -/
theorem build_of_ordered {options : List SessionOption}
    (ordered : (options.map SessionOption.kind).Sublist OptionKind.order) :
    ∃ session, build options = .ok session ∧ session.options = options := by
  have increasing : OptionKind.order.Pairwise OptionKind.Before := by decide
  have sorted := List.pairwise_map.mp (increasing.sublist ordered)
  exact empty.applyAll_of_ordered sorted

end Session

end TealTools.Debugger

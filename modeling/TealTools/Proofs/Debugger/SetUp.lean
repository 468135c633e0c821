import Mathlib.Data.List.Permutation
import TealTools.Proofs.Debugger.History

/-!
# Setting up in any order

An editor launches a program, sets its breakpoints and says that its set-up is
complete.  As long as the breakpoints do not come last, the order of these
requests has no influence: the execution starts once, with the last of them.
-/

namespace TealTools.Debugger

def refusalOf {α : Type} : Except AdapterError α → Option AdapterError
  | .ok _ => none
  | .error cause => some cause

def Outcome.refusal? (outcome : Outcome) : Option AdapterError :=
  refusalOf outcome.result

structure Outcome.Ends (outcome : Outcome) (adapter : Adapter)
    (events : List Event) (refusal : Option AdapterError) : Prop where
  adapter : outcome.adapter = adapter
  events : outcome.events = events
  refusal : outcome.refusal? = refusal

namespace Adapter

def prepared (adapter : Adapter) (breakpoints : List BreakpointRequest)
    (configured : Bool) : Adapter :=
  { adapter.setBreakpoints breakpoints with configured }

/-! ## One request -/

section

variable {environment : Environment} {adapter loaded : Adapter}
  {arguments : Json} {result : Except AdapterError Unit}
  {sent : List Node.Request}

/-- Neither breakpoints nor the end of the set-up have an influence on what
a launch loads. -/
theorem Loads.prepared
    (loads : adapter.Loads environment arguments (loaded, result, sent))
    (breakpoints : List BreakpointRequest) (configured : Bool) :
    (adapter.prepared breakpoints configured).Loads environment arguments
      (loaded.prepared breakpoints configured, result, sent) := by
  cases loads with
  | malformed malformed => exact .malformed malformed
  | unreadable decoded chosen unread =>
      exact .unreadable decoded chosen unread
  | untraced decoded maps untraced => exact .untraced decoded maps untraced
  | loaded decoded maps traced => exact .loaded decoded maps traced

theorem Loads.ends
    (loads : adapter.Loads environment arguments (loaded, result, sent))
    (unlaunched : adapter.isLaunched = false) :
    (adapter.execute environment (.launch arguments)).Ends
      loaded.startIfReady.1 loaded.startIfReady.2 (refusalOf result) := by
  rw [loads.execute]
  cases result with
  | error cause =>
      rw [startIfReady_of_unlaunched
        (loads.unlaunched_of_refused unlaunched)]
      exact ⟨rfl, rfl, rfl⟩
  | ok => exact ⟨rfl, rfl, rfl⟩

private theorem Loads.ends_of_waiting
    (loads : adapter.Loads environment arguments (loaded, result, sent))
    (unlaunched : adapter.isLaunched = false)
    (waiting : adapter.configured = false) :
    (adapter.execute environment (.launch arguments)).Ends loaded []
      (refusalOf result) := by
  have waits : loaded.configured = false := loads.configured_eq.trans waiting
  have launched := loads.ends unlaunched
  rw [startIfReady_of_waiting waits] at launched
  exact launched

theorem ends_setBreakpoints (source : Json)
    (breakpoints : List BreakpointRequest) :
    (adapter.execute environment (.setBreakpoints source breakpoints)).Ends
      (adapter.setBreakpoints breakpoints) [] none :=
  ⟨rfl, rfl, rfl⟩

theorem ends_configurationDone :
    (adapter.execute environment .configurationDone).Ends
      adapter.configure.startIfReady.1 adapter.configure.startIfReady.2
      none := by
  rw [execute_configurationDone_eq]
  exact ⟨rfl, rfl, rfl⟩

private theorem ends_configurationDone_of_unlaunched
    (unlaunched : adapter.isLaunched = false) :
    (adapter.execute environment .configurationDone).Ends adapter.configure
      [] none := by
  have still : adapter.configure.isLaunched = false := unlaunched
  have ends := @ends_configurationDone environment adapter
  rw [startIfReady_of_unlaunched still] at ends
  exact ends

end

/-! ## Three requests -/

/-- Events come with the last of three requests only. -/
structure SetsUp (environment : Environment) (adapter : Adapter)
    (commands : List Command) (final : Adapter) (events : List Event)
    (refusals : List AdapterError) : Prop where
  after : adapter.after (commands.map (Turn.mk environment)) = final
  events : (adapter.outcomes (commands.map (Turn.mk environment))).map
    Outcome.events = [[], [], events]
  refusals : (adapter.outcomes (commands.map (Turn.mk environment))).filterMap
    Outcome.refusal? = refusals

theorem setsUp_of_ends {environment : Environment}
    {adapter second third final : Adapter}
    {opening middle closing : Command} {events : List Event}
    {early halfway late : Option AdapterError}
    (opens : (adapter.execute environment opening).Ends second [] early)
    (goesOn : (second.execute environment middle).Ends third [] halfway)
    (closes : (third.execute environment closing).Ends final events late) :
    adapter.SetsUp environment [opening, middle, closing] final events
      (early.toList ++ halfway.toList ++ late.toList) := by
  constructor
  · simp only [List.map_cons, List.map_nil, Adapter.after, answer,
      opens.adapter, goesOn.adapter, closes.adapter]
  · simp only [List.map_cons, List.map_nil, outcomes, answer, opens.adapter,
      goesOn.adapter, opens.events, goesOn.events, closes.events]
  · simp only [List.map_cons, List.map_nil, outcomes, answer, opens.adapter,
      goesOn.adapter, List.filterMap_eq_flatMap_toList, List.flatMap_cons,
      List.flatMap_nil, opens.refusal, goesOn.refusal, closes.refusal,
      List.append_nil, List.append_assoc]

private theorem cases_of_early {launch configure mark : Command}
    {order : List Command} (permuted : order.Perm [launch, configure, mark])
    (early : order.getLast? ≠ some mark) :
    order = [launch, mark, configure] ∨ order = [mark, launch, configure] ∨
      order = [configure, mark, launch] ∨
        order = [mark, configure, launch] := by
  have listed := List.mem_permutations'.mpr permuted
  simp only [List.permutations', List.permutations'Aux, List.flatMap_cons,
    List.flatMap_nil, List.map_cons, List.map_nil, List.cons_append,
    List.nil_append, List.append_nil, List.mem_cons, List.not_mem_nil,
    or_false] at listed
  rcases listed with rfl | rfl | third | first | second | fourth
  · exact absurd rfl early
  · exact absurd rfl early
  · exact .inr (.inr (.inl third))
  · exact .inl first
  · exact .inr (.inl second)
  · exact .inr (.inr (.inr fourth))

section

variable {environment : Environment} {adapter loaded : Adapter}
  {arguments : Json} {result : Except AdapterError Unit}
  {sent : List Node.Request}

private theorem prepared_false (waiting : adapter.configured = false)
    (breakpoints : List BreakpointRequest) :
    adapter.prepared breakpoints false =
      adapter.setBreakpoints breakpoints := by
  simp only [Adapter.prepared, setBreakpoints, waiting]

private theorem setsUp_of_early {source : Json}
    {breakpoints : List BreakpointRequest} {order : List Command}
    (loads : adapter.Loads environment arguments (loaded, result, sent))
    (unlaunched : adapter.isLaunched = false)
    (waiting : adapter.configured = false)
    (permuted : order.Perm [.launch arguments, .configurationDone,
      .setBreakpoints source breakpoints])
    (early : order.getLast? ≠ some (.setBreakpoints source breakpoints)) :
    adapter.SetsUp environment order
      (loaded.prepared breakpoints true).startIfReady.1
      (loaded.prepared breakpoints true).startIfReady.2
      (refusalOf result).toList := by
  have launches := (loads.prepared breakpoints true).ends unlaunched
  have marks : ∀ adapter : Adapter,
      (adapter.execute environment
        (.setBreakpoints source breakpoints)).Ends
          (adapter.setBreakpoints breakpoints) [] none :=
    fun _ => ends_setBreakpoints source breakpoints
  have configures : ∀ adapter : Adapter, adapter.isLaunched = false →
      (adapter.execute environment .configurationDone).Ends
        adapter.configure [] none :=
    fun _ still => ends_configurationDone_of_unlaunched still
  rcases cases_of_early permuted early with rfl | rfl | rfl | rfl
  · have setsUp := setsUp_of_ends
      (loads.ends_of_waiting unlaunched waiting) (marks loaded)
      ends_configurationDone
    simp only [Option.toList_none, List.append_nil] at setsUp
    exact setsUp
  · have waits := loads.prepared breakpoints false
    have pending := waits.ends_of_waiting unlaunched rfl
    rw [prepared_false waiting] at pending
    have setsUp := setsUp_of_ends (marks adapter) pending
      ends_configurationDone
    simp only [Option.toList_none, List.append_nil, List.nil_append] at setsUp
    exact setsUp
  · have setsUp := setsUp_of_ends (configures adapter unlaunched)
      (marks adapter.configure) launches
    simp only [Option.toList_none, List.nil_append] at setsUp
    exact setsUp
  · have setsUp := setsUp_of_ends (marks adapter)
      (configures (adapter.setBreakpoints breakpoints) unlaunched) launches
    simp only [Option.toList_none, List.nil_append] at setsUp
    exact setsUp

end

end Adapter

/-- Whatever the order of a set-up is, as long as the breakpoints do not come
last, it leads to the same adapter, and the execution starts with its last
request unless the launch is refused. -/
theorem setUp_in_any_order (adapter : Adapter) (environment : Environment)
    (arguments source : Json) (breakpoints : List BreakpointRequest)
    (unlaunched : adapter.isLaunched = false)
    (waiting : adapter.configured = false) :
    ∃ (final : Adapter) (events : List Event)
        (refusal : Option AdapterError),
      (∀ order : List Command,
        order.Perm [.launch arguments, .configurationDone,
          .setBreakpoints source breakpoints] →
        order.getLast? ≠ some (.setBreakpoints source breakpoints) →
        adapter.SetsUp environment order final events refusal.toList) ∧
      (refusal = none →
        events = [.terminated] ∨
          ∃ reason pc, events = [.stopped reason pc]) ∧
      (refusal ≠ none → events = []) := by
  obtain ⟨⟨loaded, result, sent⟩, loads⟩ :=
    Adapter.exists_loads environment adapter arguments
  refine ⟨_, _, refusalOf result, fun order permuted early =>
    Adapter.setsUp_of_early loads unlaunched waiting permuted early, ?_, ?_⟩
  · intro accepted
    cases result with
    | error cause => cases accepted
    | ok =>
        have launched := loads.isLaunched_of_loaded
        have runs := @Adapter.runs_startIfReady
          (loaded.prepared breakpoints true) launched rfl
        exact runs.reports
  · intro refused
    cases result with
    | error cause =>
        have still : (loaded.prepared breakpoints true).isLaunched = false :=
          loads.unlaunched_of_refused unlaunched
        rw [Adapter.startIfReady_of_unlaunched still]
    | ok => exact absurd rfl refused

def launchFirst : List Command :=
  [.launch (.obj [("program", .str "p")]),
    .setBreakpoints .null [⟨2, none⟩], .configurationDone]

def launchLast : List Command :=
  [.configurationDone, .setBreakpoints .null [⟨2, none⟩],
    .launch (.obj [("program", .str "p")])]

theorem setUp_in_any_order_recordedRuns :
    recordedSession.adapter.isLaunched = false ∧
      recordedSession.adapter.configured = false ∧
      (recordedSession.adapter.outcomes
          (launchFirst.map (Turn.mk recordedEnvironment))).map
          Outcome.events =
        [[], [], [.stopped .breakpoint 3]] ∧
      (recordedSession.adapter.outcomes
          (launchLast.map (Turn.mk recordedEnvironment))).map
          Outcome.events =
        [[], [], [.stopped .breakpoint 3]] ∧
      recordedSession.adapter.after
          (launchFirst.map (Turn.mk recordedEnvironment)) =
        recordedSession.adapter.after
          (launchLast.map (Turn.mk recordedEnvironment)) := by
  obtain ⟨final, events, refusal, same, -⟩ := setUp_in_any_order
    recordedSession.adapter recordedEnvironment
    (.obj [("program", .str "p")]) .null [⟨2, none⟩] rfl rfl
  have first := same launchFirst (.cons _ (.swap _ _ _))
    (by simp [launchFirst])
  have last := same launchLast
    (List.perm_append_comm : (launchLast.take 2 ++ _).Perm (_ ++ _))
    (by simp [launchLast])
  have hit : (recordedSession.adapter.outcomes
      (launchFirst.map (Turn.mk recordedEnvironment))).map Outcome.events =
        [[], [], [.stopped .breakpoint 3]] := by
    decide +kernel
  refine ⟨rfl, rfl, hit, ?_, first.after.trans last.after.symm⟩
  exact last.events.trans (first.events.symm.trans hit)

end TealTools.Debugger

import TealTools.Proofs.Debugger.Launch

/-!
# Histories of an adapter

Requests follow one another, each with the files and the network that it
finds.  `Runs` says once what an execution can do and report, and `Becomes`
what a command can make of an adapter; what holds behind every history is
derived from these step by step.
-/

namespace TealTools.Debugger

structure Turn where
  environment : Environment
  command : Command

def Command.isLaunch : Command → Bool
  | launch _ => true
  | _ => false

namespace Adapter

def answer (adapter : Adapter) (turn : Turn) : Outcome :=
  adapter.execute turn.environment turn.command

def after (adapter : Adapter) : List Turn → Adapter
  | [] => adapter
  | turn :: turns => (adapter.answer turn).adapter.after turns

def outcomes (adapter : Adapter) : List Turn → List Outcome
  | [] => []
  | turn :: turns =>
    adapter.answer turn :: (adapter.answer turn).adapter.outcomes turns

/-- Moves the replay, if there is one. -/
def advanced (adapter : Adapter) (moves : List Replay.Move) : Adapter :=
  { adapter with replay := adapter.replay.map fun replay => replay.run moves }

@[simp] theorem advanced_nil
    (adapter : Adapter) : adapter.advanced [] = adapter := by
  have still : (fun replay : Replay => replay.run []) = id := rfl
  simp only [advanced, still, Option.map_id_fun, id_eq]

/-! ## Running -/

/-- How an execution moves the replay, and its report on where the replay
stands then. -/
inductive Runs (adapter : Adapter) : Adapter × List Event → Prop where
  | intro {replay : Replay} (launched : adapter.replay = some replay)
      (reason : StopReason) (moves : List Replay.Move)
      (hit : reason = .breakpoint → ∀ pc,
        (replay.run moves).pc? = some pc → adapter.isBreakpoint pc = true) :
      Runs adapter
        (adapter.advanced moves, [standing reason (replay.run moves)])

section

variable {adapter : Adapter} {replay : Replay}

theorem advanced_of_launched (launched : adapter.replay = some replay)
    (move : Replay.Move) :
    adapter.advanced [move] =
      { adapter with replay := some (move.apply replay).2 } := by
  simp only [advanced, launched, Option.map_some]
  rfl

private theorem runs_still (launched : adapter.replay = some replay)
    (reason : StopReason)
    (hit : reason = .breakpoint → ∀ pc,
      replay.pc? = some pc → adapter.isBreakpoint pc = true) :
    adapter.Runs (adapter, [standing reason replay]) := by
  have run := Runs.intro launched reason [] hit
  rw [advanced_nil] at run
  exact run

theorem runs_move (launched : adapter.replay = some replay)
    (move : Replay.Move) (reason : StopReason)
    (hit : reason = .breakpoint → ∀ pc,
      (move.apply replay).2.pc? = some pc → adapter.isBreakpoint pc = true) :
    adapter.Runs ({ adapter with replay := some (move.apply replay).2 },
      [standing reason (move.apply replay).2]) := by
  have run := Runs.intro launched reason [move] hit
  rw [advanced_of_launched launched] at run
  exact run

theorem runs_runToBreakpoint (launched : adapter.replay = some replay) :
    adapter.Runs (adapter.runToBreakpoint replay) := by
  rw [runToBreakpoint_eq]
  apply runs_move launched (.resume adapter.isBreakpoint) .breakpoint
  intro _ pc standing
  rcases Replay.resume_stops adapter.isBreakpoint replay with
    finished | ⟨stop, reached, hit⟩
  · have none := standing.symm.trans finished
    cases none
  · have same := standing.symm.trans reached
    cases same
    exact hit

private theorem runs_start (launched : adapter.replay = some replay) :
    adapter.Runs adapter.start := by
  cases here : replay.pc? with
  | none =>
      have still := runs_still launched .entry (fun entry => nomatch entry)
      simp only [standing, here] at still
      simp only [start, launched, here]
      exact still
  | some pc =>
      simp only [start, launched, here]
      by_cases entry : adapter.stopOnEntry = true
      · have still := runs_still launched .entry (fun entry => nomatch entry)
        simp only [standing, here] at still
        rw [if_pos entry]
        exact still
      · rw [if_neg entry]
        by_cases hit : adapter.isBreakpoint pc = true
        · have still := runs_still launched .breakpoint (by
            intro _ other same
            rw [here] at same
            cases same
            exact hit)
          simp only [standing, here] at still
          rw [if_pos hit]
          exact still
        · rw [if_neg hit]
          exact runs_runToBreakpoint launched

theorem runs_startIfReady (launched : adapter.isLaunched = true)
    (configured : adapter.configured = true) :
    adapter.Runs adapter.startIfReady := by
  obtain ⟨replay, launched'⟩ := Option.isSome_iff_exists.mp launched
  rw [startIfReady, if_pos ⟨launched, configured⟩]
  exact runs_start launched'

theorem Runs.exists_advanced {result : Adapter × List Event}
    (runs : adapter.Runs result) :
    ∃ moves, result.1 = adapter.advanced moves := by
  cases runs with
  | intro launched reason moves hit => exact ⟨moves, rfl⟩

theorem Runs.reports {result : Adapter × List Event}
    (runs : adapter.Runs result) :
    result.2 = [.terminated] ∨
      ∃ reason pc, result.2 = [.stopped reason pc] := by
  cases runs with
  | @intro replay launched reason moves hit =>
      unfold standing
      cases (replay.run moves).pc? with
      | none => exact .inl rfl
      | some pc => exact .inr ⟨reason, pc, rfl⟩

theorem exists_startIfReady (adapter : Adapter) :
    ∃ moves, adapter.startIfReady.1 = adapter.advanced moves := by
  by_cases launched : adapter.isLaunched = true
  · by_cases configured : adapter.configured = true
    · exact (runs_startIfReady launched configured).exists_advanced
    · rw [startIfReady_of_waiting (Bool.eq_false_iff.mpr configured)]
      exact ⟨[], (advanced_nil adapter).symm⟩
  · rw [startIfReady_of_unlaunched (Bool.eq_false_iff.mpr launched)]
    exact ⟨[], (advanced_nil adapter).symm⟩

end

/-! ## One command -/

/-- What a command can make of an adapter. -/
inductive Becomes (environment : Environment) (adapter : Adapter) :
    Command → Adapter → Prop where
  | advanced {command : Command} (other : command.isLaunch = false)
      (moves : List Replay.Move) :
      Becomes environment adapter command (adapter.advanced moves)
  | marked (source : Json) (breakpoints : List BreakpointRequest) :
      Becomes environment adapter (.setBreakpoints source breakpoints)
        (adapter.setBreakpoints breakpoints)
  | configured (moves : List Replay.Move) :
      Becomes environment adapter .configurationDone
        (adapter.configure.advanced moves)
  | loaded {arguments : Json} {loaded : Adapter}
      {result : Except AdapterError Unit} {sent : List Node.Request}
      (loads : adapter.Loads environment arguments (loaded, result, sent))
      (moves : List Replay.Move) :
      Becomes environment adapter (.launch arguments) (loaded.advanced moves)
  | disconnected :
      Becomes environment adapter .disconnect { adapter with replay := none }

private theorem becomes_self (environment : Environment) (adapter : Adapter)
    {command : Command} (other : command.isLaunch = false) :
    adapter.Becomes environment command adapter := by
  have still := @Becomes.advanced environment adapter command other []
  rw [advanced_nil] at still
  exact still

theorem move_of_launched {adapter : Adapter} {replay : Replay}
    (launched : adapter.replay = some replay) (move : Replay.Move) :
    adapter.move move.apply =
      Outcome.done { adapter with replay := some (move.apply replay).2 } .done
        [standing .step (move.apply replay).2] := by
  simp only [Adapter.move, advance, launched]

private theorem becomes_move (environment : Environment) (adapter : Adapter)
    {command : Command} (other : command.isLaunch = false)
    (move : Replay.Move) :
    adapter.Becomes environment command (adapter.move move.apply).adapter := by
  cases launched : adapter.replay with
  | none =>
      simp only [Adapter.move, advance, launched]
      exact becomes_self environment adapter other
  | some replay =>
      rw [move_of_launched launched, Outcome.done,
        ← advanced_of_launched launched]
      exact .advanced other [move]

theorem execute_evaluate {environment : Environment} {adapter : Adapter}
    (expression : String) :
    adapter.execute environment (.evaluate expression) =
      { adapter
        result := (adapter.evaluate expression).map fun shown =>
          { body := .evaluated shown.1 shown.2, events := [] }
        sent := [] } := by
  rw [Adapter.execute]
  cases adapter.evaluate expression with
  | error cause => rfl
  | ok shown => rfl

theorem becomes_execute (environment : Environment) (adapter : Adapter)
    (command : Command) :
    adapter.Becomes environment command
      (adapter.execute environment command).adapter := by
  cases command with
  | launch arguments =>
      obtain ⟨⟨loaded, result, sent⟩, loads⟩ :=
        exists_loads environment adapter arguments
      rw [loads.execute]
      cases result with
      | error cause =>
          have kept := Becomes.loaded loads []
          rw [advanced_nil] at kept
          exact kept
      | ok =>
          obtain ⟨moves, started⟩ := exists_startIfReady loaded
          simp only [conclude, started]
          exact .loaded loads moves
  | setBreakpoints source breakpoints => exact .marked source breakpoints
  | configurationDone =>
      obtain ⟨moves, started⟩ := exists_startIfReady adapter.configure
      rw [execute_configurationDone_eq, Outcome.done, started]
      exact .configured moves
  | resume =>
      cases launched : adapter.replay with
      | none =>
          simp only [Adapter.execute, launched]
          exact becomes_self environment adapter rfl
      | some replay =>
          obtain ⟨moves, moved⟩ :=
            (runs_runToBreakpoint launched).exists_advanced
          simp only [Adapter.execute, launched, Outcome.done, moved]
          exact .advanced rfl moves
  | next => exact becomes_move environment adapter rfl .stepInto
  | stepIn => exact becomes_move environment adapter rfl .stepInto
  | stepOut => exact becomes_move environment adapter rfl .stepOut
  | evaluate expression =>
      rw [execute_evaluate]
      exact becomes_self environment adapter rfl
  | disconnect => exact .disconnected
  | _ => exact becomes_self environment adapter rfl

/-! ## Every history -/

section

variable {environment : Environment} {adapter : Adapter} {command : Command}

/-- Where execution data comes from is settled before the first request. -/
theorem sources_execute :
    (adapter.execute environment command).adapter.config = adapter.config ∧
      (adapter.execute environment command).adapter.live = adapter.live ∧
      (adapter.execute environment command).adapter.recorded =
        adapter.recorded := by
  have becomes := becomes_execute environment adapter command
  generalize (adapter.execute environment command).adapter = next at becomes
  cases becomes with
  | loaded loads moves => cases loads <;> exact ⟨rfl, rfl, rfl⟩
  | _ => exact ⟨rfl, rfl, rfl⟩

theorem sources_after (history : List Turn) :
    (adapter.after history).config = adapter.config ∧
      (adapter.after history).live = adapter.live ∧
      (adapter.after history).recorded = adapter.recorded := by
  induction history generalizing adapter with
  | nil => exact ⟨rfl, rfl, rfl⟩
  | cons turn turns induction =>
      obtain ⟨config, live, recorded⟩ :=
        @sources_execute turn.environment adapter turn.command
      obtain ⟨laterConfig, laterLive, laterRecorded⟩ :=
        @induction (adapter.answer turn).adapter
      exact ⟨laterConfig.trans config, laterLive.trans live,
        laterRecorded.trans recorded⟩

/-- A replay is what moves made of a simulation. -/
def Sound (adapter : Adapter) : Prop :=
  ∀ replay, adapter.replay = some replay →
    ∃ segments, replay.Sound segments

theorem Sound.advanced (sound : adapter.Sound) (moves : List Replay.Move) :
    (adapter.advanced moves).Sound := by
  intro moved present
  obtain ⟨replay, launched, rfl⟩ := Option.map_eq_some_iff.mp present
  obtain ⟨segments, reflects⟩ := sound replay launched
  exact ⟨segments, reflects.run moves⟩

theorem Loads.sound
    {loading : Adapter × Except AdapterError Unit × List Node.Request}
    {arguments : Json} (sound : adapter.Sound)
    (loads : adapter.Loads environment arguments loading) :
    loading.1.Sound := by
  cases loads with
  | @loaded parsed map simulation sent decoded maps traced =>
      intro replay launched
      cases launched
      exact ⟨_, Replay.sound_ofSegments (Segment.ofSimulation simulation)⟩
  | _ => exact sound

theorem Sound.execute (sound : adapter.Sound) :
    (adapter.execute environment command).adapter.Sound := by
  have becomes := becomes_execute environment adapter command
  generalize (adapter.execute environment command).adapter = next at becomes
  cases becomes with
  | advanced other moves => exact sound.advanced moves
  | marked source breakpoints => exact sound
  | configured moves =>
      have waited : adapter.configure.Sound := sound
      exact waited.advanced moves
  | loaded loads moves => exact (loads.sound sound).advanced moves
  | disconnected => exact fun _ launched => nomatch launched

theorem Sound.after (sound : adapter.Sound) (history : List Turn) :
    (adapter.after history).Sound := by
  induction history generalizing adapter with
  | nil => exact sound
  | cons turn turns induction => exact induction sound.execute

end

theorem sound_session (session : Session) : session.adapter.Sound :=
  fun _ launched => nomatch launched

end Adapter

end TealTools.Debugger

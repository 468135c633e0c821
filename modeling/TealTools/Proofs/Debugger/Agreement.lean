import TealTools.Proofs.Debugger.SetUp

/-!
# Events agree with inspection

Every command that executes something is followed by one event.  Whoever
inspects the adapter then finds what the event says: the program counter of a
stop, or nothing once the program has ended.
-/

namespace TealTools.Debugger

def Command.advances : Command → Bool
  | resume => true
  | next => true
  | stepIn => true
  | stepOut => true
  | _ => false

namespace Adapter

/-- Does a command execute something, provided that it is carried out? -/
def executes (adapter : Adapter) : Command → Bool
  | .launch _ => adapter.configured
  | .configurationDone => adapter.isLaunched
  | command => command.advances

/-! ## What can be inspected -/

structure StoppedAt (adapter : Adapter) (replay : Replay)
    (reason : StopReason) (pc : UInt64) : Prop where
  launched : adapter.replay = some replay
  running : replay.isFinished = false
  evaluated : ∀ environment,
    (adapter.execute environment (.evaluate "pc")).result =
      .ok { body := .evaluated (toString pc) "uint64", events := [] }
  frame : ∃ label, replay.label? = some label ∧ ∀ environment,
    (adapter.execute environment .stackTrace).result =
      .ok { body := .frames
              [{ name := s!"{label} pc {pc}"
                 line := (adapter.sourceMap.lineForPc? pc.toNat).getD 0
                 source := adapter.source? }]
            events := [] }
  marked : reason = .breakpoint → ∃ line ∈ adapter.breakpoints,
    adapter.sourceMap.lineForPc? pc.toNat = some line

structure Ended (adapter : Adapter) (replay : Replay) : Prop where
  launched : adapter.replay = some replay
  finished : replay.isFinished = true
  unevaluated : ∀ environment,
    (adapter.execute environment (.evaluate "pc")).result =
      .error (.evaluation .finished)
  frames : ∀ environment, (adapter.execute environment .stackTrace).result =
    .ok { body := .frames [], events := [] }
  scopes : ∀ environment, ∀ reference ∈ [stackReference, scratchReference],
    (adapter.execute environment (.inspect reference)).result =
      .ok { body := .scope [], events := [] }

/-- What an event says about an adapter. -/
def Shows (adapter : Adapter) : Event → Prop
  | .stopped reason pc => ∃ replay, adapter.StoppedAt replay reason pc
  | .terminated => ∃ replay, adapter.Ended replay
  | _ => False

section

variable {environment : Environment} {adapter : Adapter} {replay : Replay}

theorem evaluate_pc (launched : adapter.replay = some replay) :
    adapter.evaluate "pc" =
      replay.pc?.elim (.error (.evaluation .finished))
        fun pc => .ok (toString pc, "uint64") := by
  have shown : String.ofList (Text.trim "pc".toList) = "pc" := by decide
  cases here : replay.pc? with
  | none =>
      simp only [evaluate, launched, shown, if_true, here, Option.elim_none]
  | some pc =>
      simp only [evaluate, launched, shown, if_true, here, Option.elim_some]

private theorem exists_label_of_pc {pc : UInt64} (here : replay.pc? = some pc) :
    ∃ label, replay.label? = some label := by
  obtain ⟨effect, current, -⟩ := Option.map_eq_some_iff.mp here
  obtain ⟨segment, found, -⟩ := Option.bind_eq_some_iff.mp current
  refine ⟨segment.label, ?_⟩
  rw [Replay.label?, found, Option.map_some]

private theorem stoppedAt_of_pc {pc : UInt64} {reason : StopReason}
    (launched : adapter.replay = some replay) (here : replay.pc? = some pc)
    (hit : reason = .breakpoint → adapter.isBreakpoint pc = true) :
    adapter.StoppedAt replay reason pc := by
  obtain ⟨label, labelled⟩ := exists_label_of_pc here
  constructor
  · exact launched
  · obtain ⟨effect, current, -⟩ := Option.map_eq_some_iff.mp here
    rw [Replay.isFinished, current, Option.isNone_some]
  · intro environment
    rw [execute_evaluate, evaluate_pc launched, here]
    rfl
  · refine ⟨label, labelled, ?_⟩
    intro environment
    simp only [Adapter.execute, Outcome.done, frames, launched, here,
      labelled]
  · intro breakpoint
    exact stopsAt_iff.mp (hit breakpoint)

private theorem ended_of_isFinished {segments : List Segment}
    (launched : adapter.replay = some replay)
    (sound : replay.Sound segments) (here : replay.pc? = none) :
    adapter.Ended replay := by
  have finished : replay.isFinished = true := by
    rw [Replay.isFinished, Option.map_eq_none_iff.mp here, Option.isNone_none]
  have cleared := sound.behind (sound.isFinished_iff.mp finished)
  constructor
  · exact launched
  · exact finished
  · intro environment
    rw [execute_evaluate, evaluate_pc launched, here]
    rfl
  · intro environment
    simp only [Adapter.execute, Outcome.done, frames, launched, here]
  · intro environment reference member
    simp only [List.mem_cons, List.not_mem_nil, or_false] at member
    rcases member with rfl | rfl
    · simp only [Adapter.execute, Outcome.done, scopeVariables, launched,
        if_true, cleared.stack, stackVariables]
    · simp only [Adapter.execute, Outcome.done, scopeVariables, launched,
        cleared.scratch, List.map_nil]
      rfl

theorem Runs.shows {result : Adapter × List Event} (sound : adapter.Sound)
    (runs : adapter.Runs result) :
    ∃ event, result.2 = [event] ∧ result.1.Shows event := by
  cases runs with
  | @intro replay launched reason moves hit =>
      obtain ⟨segments, reflects⟩ := sound replay launched
      have moved : (adapter.advanced moves).replay =
          some (replay.run moves) := by
        rw [advanced, launched, Option.map_some]
      refine ⟨_, rfl, ?_⟩
      unfold standing
      cases here : (replay.run moves).pc? with
      | none =>
          exact ⟨_, ended_of_isFinished moved (reflects.run moves) here⟩
      | some pc =>
          refine ⟨_, stoppedAt_of_pc moved here ?_⟩
          intro breakpoint
          exact hit breakpoint pc here

/-! ## Commands that execute -/

theorem runs_of_move {move : Replay.Move} {reply : Reply}
    (accepted : (adapter.move move.apply).result = .ok reply) :
    adapter.Runs ((adapter.move move.apply).adapter, reply.events) := by
  cases launched : adapter.replay with
  | none =>
      simp only [Adapter.move, advance, launched] at accepted
      cases accepted
  | some replay =>
      rw [move_of_launched launched] at accepted ⊢
      cases accepted
      apply runs_move launched move .step
      intro step
      cases step

/-- Continuing reports a stop exactly if the replay says that it was
stopped. -/
theorem events_resume_iff (launched : adapter.replay = some replay) :
    (∃ pc, (adapter.execute environment .resume).events =
        [.stopped .breakpoint pc]) ↔
      (replay.resume adapter.isBreakpoint).1 = true := by
  have reported : (adapter.execute environment .resume).events =
      [standing .breakpoint (replay.resume adapter.isBreakpoint).2] := by
    simp only [Adapter.execute, launched, runToBreakpoint_eq]
    rfl
  rw [reported, Replay.resume_fst, standing]
  cases (replay.resume adapter.isBreakpoint).2.pc? with
  | none => simp
  | some pc => simp

theorem runs_execute {command : Command} {reply : Reply}
    (sound : adapter.Sound) (executes : adapter.executes command = true)
    (accepted : (adapter.execute environment command).result = .ok reply) :
    ∃ base : Adapter, base.Sound ∧
      base.Runs ((adapter.execute environment command).adapter,
        reply.events) := by
  cases command with
  | launch arguments =>
      obtain ⟨loaded, sent, loads⟩ := loads_of_accepted accepted
      have configured : loaded.configured = true :=
        loads.configured_eq.trans executes
      have runs := runs_startIfReady loads.isLaunched_of_loaded configured
      rw [loads.execute] at accepted ⊢
      cases accepted
      exact ⟨loaded, loads.sound sound, runs⟩
  | configurationDone =>
      have runs := @runs_startIfReady adapter.configure executes rfl
      rw [execute_configurationDone_eq] at accepted ⊢
      cases accepted
      exact ⟨adapter.configure, sound, runs⟩
  | resume =>
      cases launched : adapter.replay with
      | none =>
          simp only [Adapter.execute, launched] at accepted
          cases accepted
      | some replay =>
          simp only [Adapter.execute, launched] at accepted ⊢
          cases accepted
          exact ⟨adapter, sound, runs_runToBreakpoint launched⟩
  | next => exact ⟨adapter, sound, @runs_of_move adapter .stepInto _ accepted⟩
  | stepIn =>
      exact ⟨adapter, sound, @runs_of_move adapter .stepInto _ accepted⟩
  | stepOut =>
      exact ⟨adapter, sound, @runs_of_move adapter .stepOut _ accepted⟩
  | _ => cases executes

private theorem exists_reply_of_launched {command : Command}
    (launched : adapter.isLaunched = true)
    (advances : command.advances = true) :
    ∃ reply, (adapter.execute environment command).result = .ok reply := by
  obtain ⟨replay, present⟩ := Option.isSome_iff_exists.mp launched
  have moves : ∀ move : Replay.Move, ∃ reply,
      (adapter.move move.apply).result = .ok reply := by
    intro move
    rw [move_of_launched present]
    exact ⟨_, rfl⟩
  cases command with
  | resume =>
      simp only [Adapter.execute, present]
      exact ⟨_, rfl⟩
  | next => exact moves .stepInto
  | stepIn => exact moves .stepInto
  | stepOut => exact moves .stepOut
  | _ => cases advances

/-! ## Commands that execute nothing -/

theorem ready_of_not_executes {command : Command} {reply : Reply}
    (idle : adapter.executes command = false)
    (accepted : (adapter.execute environment command).result = .ok reply) :
    ∀ event ∈ reply.events, event = .ready := by
  have silent : reply.events = [] → ∀ event ∈ reply.events,
      event = .ready := by
    intro none event member
    rw [none] at member
    cases member
  cases command with
  | capabilities =>
      cases accepted
      exact fun event member => List.mem_singleton.mp member
  | launch arguments =>
      obtain ⟨loaded, sent, loads⟩ := loads_of_accepted accepted
      have waiting : loaded.configured = false :=
        loads.configured_eq.trans idle
      rw [loads.execute, conclude, startIfReady_of_waiting waiting]
        at accepted
      cases accepted
      exact silent rfl
  | configurationDone =>
      have still : adapter.configure.isLaunched = false := idle
      rw [execute_configurationDone_eq, startIfReady_of_unlaunched still]
        at accepted
      cases accepted
      exact silent rfl
  | evaluate expression =>
      rw [execute_evaluate] at accepted
      cases shown : adapter.evaluate expression with
      | error cause =>
          rw [shown] at accepted
          cases accepted
      | ok value =>
          rw [shown] at accepted
          cases accepted
          exact silent rfl
  | resume => cases idle
  | next => cases idle
  | stepIn => cases idle
  | stepOut => cases idle
  | idle command => cases accepted
  | _ =>
      cases accepted
      exact silent rfl

/-! ## Before a launch -/

private theorem execute_of_unlaunched {command : Command}
    (unlaunched : adapter.replay = none)
    (needs : command.advances = true ∨
      ∃ expression, command = .evaluate expression) :
    adapter.execute environment command =
      Outcome.refused adapter .notLaunched := by
  rcases needs with advances | ⟨expression, rfl⟩
  · cases command with
    | resume => simp only [Adapter.execute, unlaunched]
    | next => simp only [Adapter.execute, Adapter.move, advance, unlaunched]
    | stepIn => simp only [Adapter.execute, Adapter.move, advance, unlaunched]
    | stepOut =>
        simp only [Adapter.execute, Adapter.move, advance, unlaunched]
    | _ => cases advances
  · simp only [Adapter.execute, evaluate, unlaunched]

private theorem replay_execute_of_refused {command : Command}
    (unlaunched : adapter.replay = none)
    (refused : command.isLaunch = true →
      (adapter.execute environment command).refusal? ≠ none) :
    (adapter.execute environment command).adapter.replay = none := by
  have becomes := becomes_execute environment adapter command
  generalize (adapter.execute environment command).adapter = next
    at becomes ⊢
  cases becomes with
  | advanced other moves => simp [advanced, unlaunched]
  | marked source breakpoints => exact unlaunched
  | configured moves => simp [advanced, configure, unlaunched]
  | @loaded arguments loaded result sent loads moves =>
      have failed := refused rfl
      rw [loads.execute] at failed
      cases result with
      | error cause =>
          simp [advanced, loads.replay_of_refused, unlaunched]
      | ok => exact absurd rfl failed
  | disconnected => rfl

end

/-- Every launch of a history was refused. -/
def RefusesLaunches (adapter : Adapter) : List Turn → Prop
  | [] => True
  | turn :: turns =>
    (turn.command.isLaunch = true →
        (adapter.answer turn).refusal? ≠ none) ∧
      (adapter.answer turn).adapter.RefusesLaunches turns

theorem RefusesLaunches.replay_after {adapter : Adapter}
    {history : List Turn} (refuses : adapter.RefusesLaunches history)
    (unlaunched : adapter.replay = none) :
    (adapter.after history).replay = none := by
  induction history generalizing adapter with
  | nil => exact unlaunched
  | cons turn turns induction =>
      obtain ⟨first, later⟩ := refuses
      exact induction later (replay_execute_of_refused unlaunched first)

end Adapter

/-- Behind every history, a command that executes something is followed by
one event, and the event agrees with everything that can be inspected.  As
long as no launch succeeded, there is nothing to execute or to evaluate. -/
theorem events_agree_with_inspection (session : Session)
    (history : List Turn) (adapter : Adapter) (environment : Environment)
    (behind : adapter = session.adapter.after history) :
    (∀ command reply, adapter.executes command = true →
        (adapter.execute environment command).result = .ok reply →
        ∃ event, reply.events = [event] ∧
          (adapter.execute environment command).adapter.Shows event) ∧
      (∀ command reply, adapter.executes command = false →
        (adapter.execute environment command).result = .ok reply →
        ∀ event ∈ reply.events, event = .ready) ∧
      (∀ command : Command, command.advances = true →
        adapter.isLaunched = true →
        ∃ reply, (adapter.execute environment command).result = .ok reply) ∧
      (∀ replay, adapter.replay = some replay →
        ((∃ pc, (adapter.execute environment .resume).events =
            [.stopped .breakpoint pc]) ↔
          (replay.resume adapter.isBreakpoint).1 = true)) ∧
      (session.adapter.RefusesLaunches history →
        ∀ command : Command, command.advances = true ∨
            (∃ expression, command = .evaluate expression) →
          adapter.execute environment command =
            Outcome.refused adapter .notLaunched) := by
  have sound : adapter.Sound := by
    rw [behind]
    exact (Adapter.sound_session session).after history
  refine ⟨?_, ?_, ?_, ?_, ?_⟩
  · intro command reply executes accepted
    obtain ⟨base, baseSound, runs⟩ :=
      Adapter.runs_execute sound executes accepted
    exact runs.shows baseSound
  · intro command reply idle accepted
    exact Adapter.ready_of_not_executes idle accepted
  · intro command advances launched
    exact Adapter.exists_reply_of_launched launched advances
  · intro replay launched
    exact Adapter.events_resume_iff launched
  · intro refuses command needs
    apply Adapter.execute_of_unlaunched _ needs
    rw [behind]
    exact refuses.replay_after rfl

/-- An adapter that has stopped on the second line. -/
def stoppedAdapter : Adapter :=
  recordedSession.adapter.after
    (launchFirst.map (Turn.mk recordedEnvironment))

theorem events_agree_with_inspection_stopped :
    (stoppedAdapter.execute recordedEnvironment .next).events =
        [.stopped .step 5] ∧
      (stoppedAdapter.execute recordedEnvironment .next).adapter.Shows
        (.stopped .step 5) := by
  have stepped : (stoppedAdapter.execute recordedEnvironment .next).events =
      [.stopped .step 5] := by
    decide +kernel
  obtain ⟨agree, -, accepted, -, -⟩ := events_agree_with_inspection
    recordedSession (launchFirst.map (Turn.mk recordedEnvironment))
    stoppedAdapter recordedEnvironment rfl
  obtain ⟨reply, carriedOut⟩ := accepted .next rfl (by decide +kernel)
  obtain ⟨event, single, shows⟩ := agree .next reply rfl carriedOut
  have same : reply.events = [.stopped .step 5] := by
    rw [Outcome.events, carriedOut] at stepped
    exact stepped
  rw [single, List.singleton_inj] at same
  rw [same] at shows
  exact ⟨stepped, shows⟩

end TealTools.Debugger

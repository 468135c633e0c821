import TealTools.Program
import TealTools.Proofs.Debugger.Dialogue
import TealTools.Proofs.LanguageServer.Connection

/-!
# Runs of the program

A run ends in the same way and sends the same with a log and without one, and
a debug run does not depend on how its input is cut.  The log holds everything
that was written, and the input as far as it was taken in.
-/

namespace TealTools.Machine

/-! ## Debugging -/

section

open Debugger (Dialogue Environment Service)

variable {machine : Machine} {sources : Debugger.Sources} {files : Files}
  {session : Debugger.Session}

/-- The session over a connection without a log. -/
def dialogue (machine : Machine) (files : Files) (session : Debugger.Session)
    (input : List Bytes) : Dialogue × Pipe :=
  (Dialogue.fresh session.adapter).converse Pipe.stream
    ⟨files, machine.network⟩ (wire input) (input.map List.length)

private theorem result?_dialogue (machine : Machine) (files : Files)
    (session : Debugger.Session) (input : List Bytes) :
    (machine.dialogue files session input).1.result? =
      some (Service.serve ⟨files, machine.network⟩ session.adapter none []
        input.flatten) := by
  rw [← Dialogue.outcome_fresh]
  exact Dialogue.result?_converse _ _ input (wire input) rfl

private theorem debug_of_log {path : Bytes} {log : TrafficLog}
    (opened : sources.session machine.files = (files, .ok session))
    (named : sources.log = some path) (kept : session.log = some log)
    (input : List Bytes) :
    ∃ transfers,
      machine.debug sources input =
          .ofDialogue (machine.dialogue files session input).1
            ((log.addAll transfers).save path files) ∧
        (wire input).Passes transfers
          (machine.dialogue files session input).2 := by
  obtain ⟨transfers, same, passes⟩ := Dialogue.echoes_converse
    ⟨files, machine.network⟩ (.fresh session.adapter)
    (input.map List.length) (wire input) log
  refine ⟨transfers, ?_, passes⟩
  dsimp only at same
  simp only [debug, opened, named, kept, same]
  rfl

/-- What a session that was served shows, apart from its files. -/
def served (service : Service)
    (result : Except Debugger.ServeError Unit) (files : Files) : Run :=
  { ending := match result with
      | .ok () => .done
      | .error cause =>
        .failed (Debugger.SetupError.serving cause.message).report
    files
    debugMessages := service.outbox.arrived
    serverMessages := []
    sent := service.sent }

private theorem ofDialogue_of_result? {dialogue : Dialogue} {service : Service}
    {result : Except Debugger.ServeError Unit} (files : Files)
    (ended : dialogue.result? = some (service, result)) :
    .ofDialogue dialogue files = served service result files := by
  obtain ⟨_, found, same⟩ := Option.map_eq_some_iff.mp ended
  cases same
  cases result <;> simp only [Run.ofDialogue, served, found]

/-- A debug run serves all of its input, with a log and without one. -/
theorem debug_serves
    (opened : sources.session machine.files = (files, .ok session))
    (input : List Bytes) :
    let (service, result) := Service.serve ⟨files, machine.network⟩
      session.adapter none [] input.flatten
    ∃ kept, machine.debug sources input = served service result kept := by
  have ended := result?_dialogue machine files session input
  by_cases logged : ∃ path log,
      sources.log = some path ∧ session.log = some log
  · obtain ⟨path, log, named, kept⟩ := logged
    obtain ⟨transfers, same, -⟩ := debug_of_log opened named kept input
    exact ⟨_, same.trans (ofDialogue_of_result? _ ended)⟩
  · refine ⟨files, ?_⟩
    rw [← ofDialogue_of_result? files ended]
    simp only [debug, opened]
    split
    · rename_i path log named kept
      exact absurd ⟨path, log, named, kept⟩ logged
    · rfl

/-- How the input is cut makes a difference only to the log. -/
theorem debug_of_flatten_eq {input other : List Bytes}
    (same : input.flatten = other.flatten) :
    ∃ kept, machine.debug sources other =
      { machine.debug sources input with files := kept } := by
  rcases opened : sources.session machine.files with ⟨files, error | session⟩
  · exact ⟨files, by simp only [debug, opened, Run.ended]⟩
  · obtain ⟨kept, run⟩ := debug_serves opened input
    obtain ⟨keptOther, runOther⟩ := debug_serves opened other
    refine ⟨keptOther, ?_⟩
    rw [run, runOther, same]
    rfl

/-- The log of a debug run is a copy of what was written, and of the input as
far as it was taken in. -/
theorem debug_keeps_log {path : Bytes} {room : Option (List Nat)}
    (opened : sources.session machine.files = (files, .ok session))
    (named : sources.log = some path)
    (kept : session.log = some (.fresh room)) (input : List Bytes) :
    ∃ transfers log,
      (machine.debug sources input).files = log.save path files ∧
        TrafficLog.Copies (.fresh room) transfers log ∧
        Transfer.bytesOf .incoming transfers <+: input.flatten ∧
        Transfer.bytesOf .outgoing transfers =
          Dialogue.written (machine.debug sources input).debugMessages := by
  obtain ⟨transfers, same, passes⟩ := debug_of_log opened named kept input
  have written := Dialogue.outgoing_converse ⟨files, machine.network⟩
    (.fresh session.adapter) (input.map List.length) (wire input) rfl
  refine ⟨transfers, _, ?_, TrafficLog.addAll_copies rfl,
    ⟨_, passes.incoming.symm⟩, ?_⟩
  · rw [same]
    rfl
  · rw [same]
    exact passes.outgoing.symm.trans written

end

/-! ## Serving an editor -/

section

open LanguageServer (Connection Session Surroundings Transport)

variable {machine : Machine} {options : CommandLine.ServeOptions}
  {transport : Transport} {files : Files} {session : Session}

/-- Each piece of the input is answered before the next comes in, with a log
and without one. -/
theorem serve_answers
    (selected : Transport.select ⟨machine.listening, machine.files⟩
      options.network options.address = .ok transport)
    (started : Session.start machine.files
      (CommandLine.logPath? options.log) = (files, .ok session))
    (input : List Bytes) :
    (machine.serve options input).serverMessages =
      ((Connection.fresh session.diagnose).answers input).2 := by
  obtain ⟨answered, -⟩ := Connection.converse_pipe
    (.fresh session.diagnose) input (wire input) rfl
  rw [← answered]
  simp only [serve, selected, started]
  split
  · rename_i path log named kept
    obtain ⟨transfers, same, -⟩ := Connection.echoes_converse
      (.fresh session.diagnose) (input.map List.length) (wire input) log
    dsimp only at same
    rw [same]
  · rfl

/-- The log is a copy of what was written, and of the input as far as it was
taken in. -/
theorem serve_keeps_log {path : Bytes} {room : Option (List Nat)}
    (selected : Transport.select ⟨machine.listening, machine.files⟩
      options.network options.address = .ok transport)
    (named : CommandLine.logPath? options.log = some path)
    (started : Session.start machine.files (some path) = (files, .ok session))
    (kept : session.log = some (.fresh room)) (input : List Bytes) :
    ∃ transfers log,
      (machine.serve options input).files = log.save path files ∧
        TrafficLog.Copies (.fresh room) transfers log ∧
        Transfer.bytesOf .incoming transfers <+: input.flatten ∧
        Transfer.bytesOf .outgoing transfers =
          Connection.written (machine.serve options input).serverMessages := by
  obtain ⟨transfers, same, passes⟩ := Connection.echoes_converse
    (.fresh session.diagnose) (input.map List.length) (wire input)
    (.fresh room)
  obtain ⟨-, outgoing⟩ := Connection.converse_pipe
    (.fresh session.diagnose) input (wire input) rfl
  dsimp only at same outgoing
  refine ⟨transfers, (TrafficLog.fresh room).addAll transfers, ?_,
    TrafficLog.addAll_copies rfl, ⟨_, passes.incoming.symm⟩, ?_⟩
  · simp only [serve, selected, named, started, kept, same]
    rfl
  · simp only [serve, selected, named, started, kept, same]
    exact passes.outgoing.symm.trans outgoing

end

end TealTools.Machine

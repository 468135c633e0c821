import TealTools.CommandLine.Invocation
import TealTools.Debugger.Dialogue
import TealTools.Debugger.Sources
import TealTools.LanguageServer.Connection
import TealTools.LanguageServer.Session
import TealTools.LanguageServer.Transport

/-!
# Running the program

A run takes a command line and everything that comes in on the connection to
the editor.  What it sends, which requests nodes see, and which files it
leaves behind are its result.
-/

namespace TealTools

/-- What is outside the program. -/
structure Machine where
  files : Files
  network : Node.Network
  /-- The ports where somebody listens. -/
  listening : List (IpAddress × Nat)

/-- How a run ends. -/
inductive Ending where
  | done
  | refused (refusal : CommandLine.Refusal)
  | failed (report : Report)
  deriving DecidableEq, Repr

/-- The status that the system sees. -/
def Ending.status : Ending → Nat
  | done => 0
  | refused refusal => refusal.status
  | failed report => report.status

/-- What a run leads to. -/
structure Run where
  ending : Ending
  files : Files
  /-- The messages of a debug adapter, with their numbers. -/
  debugMessages : List (Nat × Debugger.Message)
  /-- The messages of a language server. -/
  serverMessages : List LanguageServer.Outgoing
  /-- The requests that nodes have seen. -/
  sent : List Node.Request

namespace Run

/-- A run that ends before anything is sent. -/
def ended (ending : Ending) (files : Files) : Run :=
  { ending, files, debugMessages := [], serverMessages := [], sent := [] }

/-- A debug session that has ended. -/
def ofDialogue (dialogue : Debugger.Dialogue) (files : Files) : Run :=
  { ending := match dialogue.ending with
      | some (.error cause) =>
        .failed (Debugger.SetupError.serving cause.message).report
      | _ => .done
    files
    debugMessages := dialogue.service.outbox.arrived
    serverMessages := []
    sent := dialogue.service.sent }

end Run

namespace Machine

/-- What comes in from the editor. -/
def wire (input : List Bytes) : Pipe :=
  { incoming := input.flatten, outgoing := [] }

/-- Debugs with the given sources.  Programs are read from the files as they
are once the log is open. -/
def debug (machine : Machine) (sources : Debugger.Sources)
    (input : List Bytes) : Run :=
  match sources.session machine.files with
  | (files, .error error) => .ended (.failed error.report) files
  | (files, .ok session) =>
    let environment : Debugger.Environment :=
      { files, network := machine.network }
    let start := Debugger.Dialogue.fresh session.adapter
    let rooms := input.map List.length
    match sources.log, session.log with
    | some path, some log =>
      let stream := Pipe.stream.logged .incoming .outgoing
      let (dialogue, _, log) :=
        start.converse stream environment (wire input, log) rooms
      .ofDialogue dialogue (log.save path files)
    | _, _ =>
      let (dialogue, _) :=
        start.converse Pipe.stream environment (wire input) rooms
      .ofDialogue dialogue files

/-- Serves an editor. -/
def serve (machine : Machine) (options : CommandLine.ServeOptions)
    (input : List Bytes) : Run :=
  let around : LanguageServer.Surroundings :=
    { listening := machine.listening, files := machine.files }
  match LanguageServer.Transport.select around options.network
      options.address with
  | .error error => .ended (.failed error.report) machine.files
  | .ok _ =>
    let path? := CommandLine.logPath? options.log
    match LanguageServer.Session.start machine.files path? with
    | (files, .error error) => .ended (.failed error.report) files
    | (files, .ok session) =>
      let start := LanguageServer.Connection.fresh session.diagnose
      let rooms := input.map List.length
      match path?, session.log with
      | some path, some log =>
        let stream := LanguageServer.pipe.logged .incoming .outgoing
        let ((_, messages), _, log) :=
          start.converse stream (wire input, log) rooms
        { Run.ended .done (log.save path files) with
          serverMessages := messages }
      | _, _ =>
        let ((_, messages), _) :=
          start.converse LanguageServer.pipe (wire input) rooms
        { Run.ended .done files with serverMessages := messages }

/-- Runs the program on bytes that come in one after the other. -/
def run (machine : Machine) (arguments : List Bytes) (input : List Bytes) :
    Run :=
  match CommandLine.Invocation.ofArguments arguments with
  | .error refusal => .ended (.refused refusal) machine.files
  | .ok invocation =>
    match invocation.debug with
    | some options => machine.debug options.sources input
    | none => machine.serve invocation.serve input

end Machine

end TealTools

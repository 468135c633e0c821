import TealTools.Debugger.Session
import TealTools.Debugger.SetupError
import TealTools.Json.Parser

/-!
# Sources of a debug session

The sources are looked up in a fixed order: the log, the configuration, the
endpoint and the recorded execution.  The first that fails decides the error.
-/

namespace TealTools.Debugger

/-- What was asked for on the command line. -/
structure Sources where
  log : Option Bytes
  config : Option Bytes
  /-- The address of a node; an empty one means that none is wanted. -/
  node : Option String
  token : String
  replay : Option Bytes
  deriving DecidableEq, Repr

namespace Sources

def empty : Sources :=
  { log := none, config := none, node := none, token := "", replay := none }

/-- Opens the log, if there is one. -/
def openLog (sources : Sources) (files : Files) :
    Except SetupError (Option TrafficLog × Files) :=
  match sources.log with
  | none => .ok (none, files)
  | some path =>
    match TrafficLog.create files path with
    | .ok (log, files) => .ok (some log, files)
    | .error cause => .error (.debugLog path cause)

/-- Reads the value that is kept in a file, if there is a file. -/
def readValue {α : Type} (files : Files) (path : Option Bytes)
    (decode? : Json → Option α) (unread : Bytes → FileError → SetupError)
    (malformed : Bytes → SetupError) : Except SetupError (Option α) :=
  match path with
  | none => .ok none
  | some path =>
    match files.readText path with
    | .error cause => .error (unread path cause)
    | .ok text =>
      match (Json.parse? text.toList).bind decode? with
      | some value => .ok (some value)
      | none => .error (malformed path)

def readConfig (sources : Sources) (files : Files) :
    Except SetupError (Option Config) :=
  readValue files sources.config Config.decode? .configFile .configFormat

def readReplay (sources : Sources) (files : Files) :
    Except SetupError (Option Simulation) :=
  readValue files sources.replay Simulation.decode? .replayFile .replayFormat

/-- The address of the node to use.  Without one of its own, a session that
has neither a recorded execution nor a configured node uses the default. -/
def address? (sources : Sources) (config : Option Config) : Option String :=
  match sources.node with
  | some address => if address.isEmpty then none else some address
  | none =>
    if sources.replay.isNone ∧ (config.bind Config.node).isNone then
      some Node.Endpoint.defaultAddress
    else none

/-- The endpoint to use, if any. -/
def endpoint (sources : Sources) (config : Option Config) :
    Except SetupError (Option Node.Endpoint) :=
  match sources.address? config with
  | none => .ok none
  | some address =>
    match Node.Endpoint.parse address sources.token with
    | .ok endpoint => .ok (some endpoint)
    | .error cause => .error (.endpoint address cause.message)

/-- The options behind the log. -/
def sourceOptions (sources : Sources) (files : Files) :
    Except SetupError (List SessionOption) := do
  let config ← sources.readConfig files
  let live ← sources.endpoint config
  let recorded ← sources.readReplay files
  return config.toList.map .config ++ live.toList.map .live ++
    recorded.toList.map .recorded

/-- The options of a session, and the files once the log is open. -/
def resolve (sources : Sources) (files : Files) :
    Files × Except SetupError (List SessionOption) :=
  match sources.openLog files with
  | .error cause => (files, .error cause)
  | .ok (log, files) =>
    (files, do
      return log.toList.map .log ++ (← sources.sourceOptions files))

/-- The session that the sources describe. -/
def session (sources : Sources) (files : Files) :
    Files × Except SetupError Session :=
  match sources.resolve files with
  | (files, .error cause) => (files, .error cause)
  | (files, .ok options) =>
    (files, (Session.build options).mapError fun conflict =>
      .options conflict.message)

end Sources

end TealTools.Debugger

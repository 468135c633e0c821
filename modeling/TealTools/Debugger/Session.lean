import TealTools.Debugger.Adapter
import TealTools.TrafficLog

/-!
# Debug sessions

A session is put together from options.  Each kind of option may be applied
once, and a configuration only before an endpoint or a recorded execution.
-/

namespace TealTools.Debugger

inductive SessionOption where
  | log (log : TrafficLog)
  | config (config : Config)
  | live (endpoint : Node.Endpoint)
  | recorded (simulation : Simulation)
  deriving Repr

/-- Why an option cannot be applied behind the ones before it. -/
inductive OptionConflict where
  | secondLog
  | lateConfig
  | secondConfig
  | secondEndpoint
  | secondRecording
  deriving DecidableEq, Repr

def OptionConflict.message : OptionConflict → String
  | secondLog => "more than one debug log"
  | lateConfig => "debug config must be applied before live or replay sources"
  | secondConfig => "more than one debug config"
  | secondEndpoint => "more than one algod endpoint"
  | secondRecording => "more than one replay file"

structure Session where
  log : Option TrafficLog
  config : Option Config
  live : Option Node.Endpoint
  recorded : Option Simulation
  deriving Repr

namespace Session

/-- A session without options. -/
def empty : Session :=
  { log := none, config := none, live := none, recorded := none }

/-- Applies one more option. -/
def apply (session : Session) :
    SessionOption → Except OptionConflict Session
  | .log log =>
    if session.log.isSome then .error .secondLog
    else .ok { session with log := some log }
  | .config config =>
    if session.live.isSome ∨ session.recorded.isSome then .error .lateConfig
    else if session.config.isSome then .error .secondConfig
    else .ok { session with config := some config }
  | .live endpoint =>
    if session.live.isSome then .error .secondEndpoint
    else .ok { session with live := some endpoint }
  | .recorded simulation =>
    if session.recorded.isSome then .error .secondRecording
    else .ok { session with recorded := some simulation }

/-- Applies options from the first to the last, or to the first that cannot
be applied. -/
def applyAll (session : Session) :
    List SessionOption → Except OptionConflict Session
  | [] => .ok session
  | option :: options =>
    match session.apply option with
    | .ok next => next.applyAll options
    | .error conflict => .error conflict

def build (options : List SessionOption) : Except OptionConflict Session :=
  empty.applyAll options

/-- The adapter that a session starts with. -/
def adapter (session : Session) : Adapter :=
  { Adapter.empty with
    config := session.config.getD .empty
    live := session.live
    recorded := session.recorded }

end Session

end TealTools.Debugger

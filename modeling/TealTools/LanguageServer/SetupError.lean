import TealTools.Files
import TealTools.Report
import TealTools.Text.Quoted

/-!
# Failures of an editor session

A session fails while the editor is dialled, while the log is opened, or
while its options are put together.
-/

namespace TealTools.LanguageServer

/-- Why a connection cannot be made. -/
inductive ConnectError where
  | invalidAddress
  | unknownHost
  /-- The host has no address of the version asked for. -/
  | otherVersion
  | refused
  | file (cause : FileError)
  deriving DecidableEq, Repr

inductive SetupError where
  | connect (network address : String) (cause : ConnectError)
  | unknownNetwork (name : String)
  | transport (cause : ConnectError)
  | debugLog (path : Bytes) (cause : FileError)
  | options (reason : String)
  | scheduler (cause : ConnectError)
  deriving DecidableEq, Repr

namespace SetupError

def message : SetupError → String
  | connect network address _ =>
    s!"failed to connect to {network} address {address}"
  | unknownNetwork name => "unsupported network " ++ Text.quoted name
  | transport _ => "transport failed"
  | debugLog path _ => "failed to open debug log " ++ Files.shown path
  | options reason => "invalid session options: " ++ reason
  | scheduler _ => "failed to start the async runtime"

def code : SetupError → String
  | connect _ _ _ | unknownNetwork _ | transport _ => "tealsp::transport"
  | debugLog _ _ => "tealsp::debug_sink"
  | options _ | scheduler _ => "tealsp::session"

def exitCode : SetupError → Int
  | connect _ _ _ | unknownNetwork _ | transport _ => -1
  | debugLog _ _ => -2
  | options _ | scheduler _ => -3

def help : SetupError → Option String
  | unknownNetwork _ => some "use one of tcp, tcp4, tcp6 or unix"
  | _ => none

/-- The failure of the system behind it. -/
def cause? : SetupError → Option ConnectError
  | connect _ _ cause | transport cause | scheduler cause => some cause
  | debugLog _ cause => some (.file cause)
  | _ => none

def report (error : SetupError) : Report :=
  { message := error.message, code := error.code, help := error.help
    exitCode := error.exitCode }

end SetupError

end TealTools.LanguageServer

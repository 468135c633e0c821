import TealTools.Files
import TealTools.Report
import TealTools.Text.Quoted

/-!
# Failures of a debug session

A session fails while its sources are looked up, while its options are
applied, or while it is served.
-/

namespace TealTools.Debugger

inductive SetupError where
  | debugLog (path : Bytes) (cause : FileError)
  | configFile (path : Bytes) (cause : FileError)
  | configFormat (path : Bytes)
  | replayFile (path : Bytes) (cause : FileError)
  | replayFormat (path : Bytes)
  | endpoint (address reason : String)
  | options (reason : String)
  | serving (reason : String)
  deriving DecidableEq, Repr

namespace SetupError

def message : SetupError → String
  | debugLog path _ => "failed to open debug log " ++ Files.shown path
  | configFile path _ => "failed to read debug config " ++ Files.shown path
  | configFormat path => "failed to parse debug config " ++ Files.shown path
  | replayFile path _ => "failed to read replay file " ++ Files.shown path
  | replayFormat path => "failed to parse replay file " ++ Files.shown path
  | endpoint address reason =>
    "invalid algod endpoint " ++ Text.quoted address ++ ": " ++ reason
  | options reason => "invalid debug session options: " ++ reason
  | serving reason => "debug session failed: " ++ reason

def code : SetupError → String
  | debugLog _ _ => "tealsp::debug_sink"
  | configFile _ _ | configFormat _ => "tealsp::config"
  | replayFile _ _ | replayFormat _ => "tealsp::replay"
  | endpoint _ _ => "tealsp::endpoint"
  | options _ => "tealsp::session"
  | serving _ => "tealsp::runtime"

def exitCode : SetupError → Int
  | debugLog _ _ => -2
  | options _ => -3
  | configFile _ _ | configFormat _ => -4
  | replayFile _ _ | replayFormat _ => -5
  | endpoint _ _ => -6
  | serving _ => -7

def help : SetupError → Option String
  | replayFormat _ =>
    some "expected an algod simulate response in JSON format"
  | _ => none

/-- The failure of a file behind it. -/
def fileError? : SetupError → Option FileError
  | debugLog _ cause | configFile _ cause | replayFile _ cause => some cause
  | _ => none

def report (error : SetupError) : Report :=
  { message := error.message, code := error.code, help := error.help
    exitCode := error.exitCode }

end SetupError

end TealTools.Debugger

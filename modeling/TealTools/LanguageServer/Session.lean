import TealTools.Diagnostic
import TealTools.LanguageServer.SetupError
import TealTools.TrafficLog

/-!
# Editor sessions

A session is put together from options.  It needs exactly one source of
diagnostics and may have one log.
-/

namespace TealTools.LanguageServer

inductive SessionOption where
  | diagnostics (diagnose : String → List Diagnostic)
  | log (log : TrafficLog)

/-- Why options make no session. -/
inductive OptionConflict where
  | secondDiagnostics
  | secondLog
  | noDiagnostics
  deriving DecidableEq, Repr

def OptionConflict.message : OptionConflict → String
  | secondDiagnostics => "more than one diagnostics handler"
  | secondLog => "more than one debug log"
  | noDiagnostics => "no diagnostics handler"

structure Session where
  diagnose : String → List Diagnostic
  log : Option TrafficLog

namespace Session

/-- What the options so far have settled. -/
structure Draft where
  diagnose : Option (String → List Diagnostic)
  log : Option TrafficLog

namespace Draft

def empty : Draft := { diagnose := none, log := none }

/-- Applies one more option. -/
def apply (draft : Draft) : SessionOption → Except OptionConflict Draft
  | .diagnostics diagnose =>
    if draft.diagnose.isSome then .error .secondDiagnostics
    else .ok { draft with diagnose := some diagnose }
  | .log log =>
    if draft.log.isSome then .error .secondLog
    else .ok { draft with log := some log }

/-- Applies options from the first to the last, or to the first that cannot
be applied. -/
def applyAll (draft : Draft) :
    List SessionOption → Except OptionConflict Draft
  | [] => .ok draft
  | option :: options =>
    match draft.apply option with
    | .ok next => next.applyAll options
    | .error conflict => .error conflict

end Draft

def build (options : List SessionOption) : Except OptionConflict Session :=
  match Draft.empty.applyAll options with
  | .error conflict => .error conflict
  | .ok draft =>
    match draft.diagnose with
    | none => .error .noDiagnostics
    | some diagnose => .ok { diagnose, log := draft.log }

/-- Opens a log as an option. -/
def openLog (files : Files) (path : Bytes) :
    Except SetupError (SessionOption × Files) :=
  match TrafficLog.create files path with
  | .ok (log, files) => .ok (.log log, files)
  | .error cause => .error (.debugLog path cause)

/-- The session of the command line, with a log if one is named. -/
def start (files : Files) (log : Option Bytes) :
    Files × Except SetupError Session :=
  let built (options : List SessionOption) :=
    (build options).mapError fun conflict => SetupError.options conflict.message
  let diagnostics := SessionOption.diagnostics Diagnostic.ofSource
  match log with
  | none => (files, built [diagnostics])
  | some path =>
    match openLog files path with
    | .error cause => (files, .error cause)
    | .ok (option, files) => (files, built [diagnostics, option])

end Session

end TealTools.LanguageServer

import TealTools.Json.Shape

/-!
# Arguments of commands

Each command of an editor has arguments of its own.  Arguments that a command
does not know are ignored, but those it knows have to be of the right type.
-/

namespace TealTools.Debugger.Arguments

open Json (Key Shape)

/-! ## Fields -/

/-- A name in which words are separated by underscores. -/
def underscored (name : String) : String :=
  String.ofList (name.toList.flatMap fun c =>
    if c.isUpper then ['_', c.toLower] else [c])

/-- A field that has to be given. -/
def field (name : String) (shape : Shape) : Key × Shape :=
  ({ name, label := underscored name }, shape)

/-- A field that may be absent or null. -/
def optional (name : String) (shape : Shape) : Key × Shape :=
  field name (.optional shape)

def int64 : Shape :=
  .integer "i64" Int64.minValue.toInt Int64.maxValue.toInt

def int32 : Shape :=
  .integer "i32" Int32.minValue.toInt Int32.maxValue.toInt

def thread : Key × Shape := field "threadId" int64

def singleThread : Key × Shape := optional "singleThread" .flag

def granularity : Key × Shape :=
  optional "granularity" (.oneOf ["statement", "line", "instruction"])

/-- Data of a session that goes on. -/
def restartData : Key × Shape :=
  ({ name := "__restart", label := "restart_data" }, .optional .anything)

/-- Where members are kept that only one adapter knows. -/
def additionalData : String := "additional_data"

/-! ## Records -/

def checksum : Shape :=
  .record "Checksum"
    [field "algorithm" (.oneOf ["MD5", "SHA1", "SHA256", "timestamp"]),
     field "checksum" .text]

/-- A source as an editor describes it.  The first argument bounds how deep
sources hold others. -/
def source : Nat → Shape
  | 0 => .either "Source" []
  | depth + 1 =>
    .record "Source"
      [optional "name" .text, optional "path" .text,
       optional "source_reference" int32,
       optional "presentation_hint"
         (.oneOf ["normal", "emphasize", "deEmphasize"]),
       optional "origin" .text, optional "sources" (.list (source depth)),
       optional "adapter_data" .anything,
       optional "checksums" (.list checksum)]

def anySource : Shape := source Json.maxDepth

def sourceBreakpoint : Shape :=
  .record "SourceBreakpoint"
    [field "line" int64, optional "column" int64, optional "condition" .text,
     optional "hit_condition" .text, optional "log_message" .text]

/-- The fields that say when a breakpoint takes effect. -/
def conditions : List (Key × Shape) :=
  [optional "condition" .text, optional "hitCondition" .text]

def functionBreakpoint : Shape :=
  .record "FunctionBreakpoint" (field "name" .text :: conditions)

def dataBreakpoint : Shape :=
  .record "DataBreakpoint"
    ([field "dataId" .text,
      optional "accessType" (.oneOf ["read", "write", "readWrite"])] ++
      conditions)

def instructionBreakpoint : Shape :=
  .record "InstructionBreakpoint"
    ([field "instructionReference" .text, optional "offset" int64] ++
      conditions)

def exceptionFilter : Shape :=
  .record "ExceptionFilterOptions"
    [field "filterId" .text, optional "condition" .text]

def exceptionOptions : Shape :=
  .record "ExceptionOptions"
    [optional "path" (.list (.record "ExceptionPathSegment"
       [optional "negate" .flag, field "names" (.list .text)])),
     field "breakMode"
       (.oneOf ["never", "always", "unhandled", "userUnhandled"])]

def valueFormat : Shape := .record "ValueFormat" [optional "hex" .flag]

def frameFormat : Shape :=
  .record "StackFrameFormat"
    (["parameters", "parameterTypes", "parameterNames", "parameterValues",
      "line", "module", "includeAll"].map fun name => optional name .flag)

/-! ## Commands -/

/-- What an editor says about itself. -/
def client : Shape :=
  .record "InitializeArguments"
    ([optional "clientID" .text, optional "clientName" .text,
      field "adapterID" .text, optional "locale" .text,
      optional "linesStartAt1" .flag, optional "columnsStartAt1" .flag,
      optional "pathFormat" (.oneOf ["path", "uri"])] ++
     ["supportsVariableType", "supportsVariablePaging",
      "supportsRunInTerminalRequest", "supportsMemoryReferences",
      "supportsProgressReporting", "supportsInvalidatedEvent",
      "supportsMemoryEvent", "supportsArgsCanBeInterpretedByShell",
      "supportsStartDebuggingRequest"].map fun name => optional name .flag)

/-- The arguments of the commands that look at a session. -/
def inspecting : List (String × Shape) :=
  [("stackTrace", .record "StackTraceArguments"
     [thread, optional "startFrame" int64, optional "levels" int64,
      optional "format" frameFormat]),
   ("scopes", .record "ScopesArguments" [field "frameId" int64]),
   ("variables", .record "VariablesArguments"
     [field "variablesReference" int64,
      optional "filter" (.oneOf ["indexed", "named"]),
      optional "start" int64, optional "count" int64,
      optional "format" valueFormat]),
   ("evaluate", .record "EvaluateArguments"
     [field "expression" .text, optional "frameId" int64,
      optional "context"
        (.oneOf ["variables", "watch", "repl", "hover", "clipboard"]),
      optional "format" valueFormat]),
   ("exceptionInfo", .record "ExceptionInfoArguments" [thread]),
   ("modules", .record "ModulesArguments"
     [optional "startModule" int64, optional "moduleCount" int64]),
   ("source", .record "SourceArguments"
     [optional "source" anySource, field "sourceReference" int64]),
   ("completions", .record "CompletionsArguments"
     [optional "frameId" int64, field "text" .text, field "column" int64,
      optional "line" int64]),
   ("gotoTargets", .record "GotoTargetsArguments"
     [field "source" anySource, field "line" int64,
      optional "column" int64]),
   ("stepInTargets", .record "StepInTargetsArguments"
     [field "frameId" int64]),
   ("breakpointLocations", .record "BreakpointLocationsArguments"
     [field "source" anySource, field "line" int64,
      optional "column" int64, optional "endLine" int64,
      optional "endColumn" int64]),
   ("dataBreakpointInfo", .record "DataBreakpointInfoArguments"
     [optional "variablesReference" int64, field "name" .text,
      optional "frameId" int64]),
   ("disassemble", .record "DisassembleArguments"
     [field "memoryReference" .text, optional "offset" int64,
      optional "instructionOffset" int64, field "instructionCount" int64,
      optional "resolveSymbols" .flag]),
   ("readMemory", .record "ReadMemoryArguments"
     [field "memoryReference" .text, optional "offset" int64,
      field "count" int64])]

/-- The arguments of the commands that set something. -/
def setting : List (String × Shape) :=
  [("setBreakpoints", .record "SetBreakpointsArguments"
     [field "source" anySource,
      optional "breakpoints" (.list sourceBreakpoint),
      optional "lines" (.list int64), optional "sourceModified" .flag]),
   ("setExceptionBreakpoints", .record "SetExceptionBreakpointsArguments"
     [field "filters" (.list .text),
      optional "filterOptions" (.list exceptionFilter),
      optional "exceptionOptions" (.list exceptionOptions)]),
   ("setFunctionBreakpoints", .record "SetFunctionBreakpointsArguments"
     [field "breakpoints" (.list functionBreakpoint)]),
   ("setDataBreakpoints", .record "SetDataBreakpointsArguments"
     [field "breakpoints" (.list dataBreakpoint)]),
   ("setInstructionBreakpoints", .record "SetInstructionBreakpointsArguments"
     [field "breakpoints" (.list instructionBreakpoint)]),
   ("setVariable", .record "SetVariableArguments"
     [field "variablesReference" int64, field "name" .text,
      field "value" .text, optional "format" valueFormat]),
   ("setExpression", .record "SetExpressionArguments"
     [field "expression" .text, field "value" .text,
      optional "frameId" int64, optional "format" valueFormat]),
   ("writeMemory", .record "WriteMemoryArguments"
     [field "memoryReference" .text, optional "offset" int64,
      optional "allowPartial" .flag, field "data" .text])]

/-- The arguments of the commands that control a session. -/
def controlling : List (String × Shape) :=
  [("initialize", client),
   ("launch", .withRest "LaunchRequestArguments"
     [optional "noDebug" .flag, restartData] additionalData),
   ("attach", .withRest "AttachRequestArguments"
     [restartData] additionalData),
   ("restart", .record "RestartArguments"
     [optional "arguments" (.withRest "AttachOrLaunchArguments"
       [optional "noDebug" .flag, restartData] additionalData)]),
   ("disconnect", .record "DisconnectArguments"
     [optional "restart" .flag, optional "terminateDebuggee" .flag,
      optional "suspendDebuggee" .flag]),
   ("terminate", .record "TerminateArguments" [optional "restart" .flag]),
   ("terminateThreads", .record "TerminateThreadsArguments"
     [optional "threadIds" (.list int64)]),
   ("cancel", .record "CancelArguments"
     [optional "requestId" int64, optional "progressId" .text])]

/-- The arguments of the commands that move a thread. -/
def moving : List (String × Shape) :=
  [("continue", .record "ContinueArguments" [thread, singleThread]),
   ("next", .record "NextArguments" [thread, singleThread, granularity]),
   ("stepIn", .record "StepInArguments"
     [thread, singleThread, optional "targetId" int64, granularity]),
   ("stepOut", .record "StepOutArguments"
     [thread, singleThread, granularity]),
   ("stepBack", .record "StepBackArguments"
     [thread, singleThread, granularity]),
   ("reverseContinue", .record "ReverseContinueArguments"
     [thread, singleThread]),
   ("pause", .record "PauseArguments" [thread]),
   ("goto", .record "GotoArguments" [thread, field "targetId" int64]),
   ("restartFrame", .record "RestartFrameArguments"
     [field "frameId" int64])]

/-- The arguments of every command that has some. -/
def shapes : List (String × Shape) :=
  controlling ++ moving ++ inspecting ++ setting

/-- The commands without arguments. -/
def bareCommands : List String :=
  ["configurationDone", "loadedSources", "threads"]

/-- All commands that are understood. -/
def commands : List String := bareCommands ++ shapes.map (·.1)

end TealTools.Debugger.Arguments

import TealTools.Debugger.Request

/-!
# Messages to an editor

Every request is answered by a response, with a body if the command has one.
Events report what happened to the execution.  Messages are numbered in the
order in which they are sent.
-/

namespace TealTools.Debugger

/-- Why execution stands still. -/
inductive StopReason where
  | entry
  | breakpoint
  | step
  deriving DecidableEq, Repr

def StopReason.name : StopReason → String
  | entry => "entry"
  | breakpoint => "breakpoint"
  | step => "step"

inductive Event where
  /-- The adapter takes breakpoints from now on. -/
  | ready
  | stopped (reason : StopReason) (pc : UInt64)
  | terminated
  /-- A line for the debug console. -/
  | output (text : String)
  deriving DecidableEq, Repr

/-- What became of a requested breakpoint. -/
structure BreakpointReply where
  id : Nat
  verified : Bool
  requested : BreakpointRequest
  source : Json
  deriving Repr

/-- A source file by its path, and its last name if it has one. -/
structure SourceFile where
  path : String
  name : Option String
  deriving DecidableEq, Repr

structure Frame where
  name : String
  line : Nat
  source : Option SourceFile
  deriving DecidableEq, Repr

structure Variable where
  name : String
  value : String
  type : String
  /-- The expression that evaluates to the variable. -/
  expression : String
  deriving DecidableEq, Repr

/-- What a response to a command says. -/
inductive Body where
  | done
  | capabilities
  | breakpoints (replies : List BreakpointReply)
  | exceptionBreakpoints
  | threads
  | frames (frames : List Frame)
  | scopes
  /-- The variables of one scope. -/
  | scope (content : List Variable)
  | resumed
  | evaluated (value type : String)
  deriving Repr

def threadId : Nat := 1

def stackReference : Int := 1

def scratchReference : Int := 2

namespace BreakpointReply

/-- Told to the editor about a line without an instruction. -/
def unverifiedMessage : String := "No instruction on this line"

def toJson (reply : BreakpointReply) : Json :=
  .obj
    ([("id", .nat reply.id), ("verified", .bool reply.verified),
      ("line", .int reply.requested.line), ("source", reply.source)] ++
      Json.echo "column" .int reply.requested.column ++
      (if reply.verified then [] else [("message", .str unverifiedMessage)]))

end BreakpointReply

def SourceFile.toJson (source : SourceFile) : Json :=
  .obj (Json.echo "name" .str source.name ++ [("path", .str source.path)])

def Frame.toJson (frame : Frame) : Json :=
  .obj
    ([("id", .nat 0), ("name", .str frame.name), ("line", .nat frame.line),
      ("column", .nat 1)] ++
      Json.echo "source" SourceFile.toJson frame.source)

def Variable.toJson (shown : Variable) : Json :=
  .obj
    [("name", .str shown.name), ("value", .str shown.value),
     ("type", .str shown.type), ("variablesReference", .nat 0),
     ("evaluateName", .str shown.expression)]

private def scopeJson (name : String) (reference : Int) : Json :=
  .obj [("name", .str name), ("variablesReference", .int reference),
    ("expensive", .bool false)]

/-- The body of a response, if there is one. -/
def Body.toJson : Body → Option Json
  | done => none
  | capabilities =>
    some (.obj
      [("supportsConfigurationDoneRequest", .bool true),
       ("supportsEvaluateForHovers", .bool false),
       ("supportsStepBack", .bool false)])
  | breakpoints replies =>
    some (.obj
      [("breakpoints", .array (replies.map BreakpointReply.toJson))])
  | exceptionBreakpoints => some (.obj [])
  | threads =>
    some (.obj
      [("threads",
        .array [.obj [("id", .nat threadId), ("name", .str "main")]])])
  | frames shown =>
    some (.obj
      [("stackFrames", .array (shown.map Frame.toJson)),
       ("totalFrames", .nat shown.length)])
  | scopes =>
    some (.obj
      [("scopes", .array
        [scopeJson "Stack" stackReference,
         scopeJson "Scratch" scratchReference])])
  | scope shown =>
    some (.obj [("variables", .array (shown.map Variable.toJson))])
  | resumed => some (.obj [("all_threads_continued", .bool true)])
  | evaluated value type =>
    some (.obj
      [("result", .str value), ("type", .str type),
       ("variablesReference", .nat 0)])

/-- The name and the body of an event. -/
def Event.content : Event → List (String × Json)
  | ready => [("event", .str "initialized")]
  | stopped reason pc =>
    [("event", .str "stopped"),
     ("body", .obj
       [("reason", .str reason.name),
        ("description", .str s!"Paused at pc {pc}"),
        ("threadId", .nat threadId),
        ("preserveFocusHint", .null),
        ("text", .null),
        ("allThreadsStopped", .bool true),
        ("hitBreakpointIds", .null)])]
  | terminated =>
    [("event", .str "terminated"),
     ("body", .obj [("restart", .bool false)])]
  | output text =>
    [("event", .str "output"),
     ("body", .obj
       [("category", .str "console"), ("output", .str text),
        ("group", .null), ("variablesReference", .null), ("source", .null),
        ("line", .null), ("column", .null), ("data", .null)])]

/-- What the adapter sends: the answer to a request, or an event. -/
inductive Message where
  | success (requestSeq : Int) (command : String) (body : Body)
  | failure (requestSeq : Int) (reason : String)
  | event (event : Event)
  deriving Repr

/-- A message with its number. -/
def Message.toJson (seq : Nat) : Message → Json
  | success requestSeq command body =>
    .obj
      ([("seq", .nat seq), ("type", .str "response"),
        ("request_seq", .int requestSeq), ("success", .bool true),
        ("command", .str command), ("error", .null)] ++
        Json.echo "body" id body.toJson)
  | failure requestSeq reason =>
    .obj
      [("seq", .nat seq), ("type", .str "response"),
       ("request_seq", .int requestSeq), ("success", .bool false),
       ("message", .str reason), ("error", .null)]
  | event happened =>
    .obj ([("seq", .nat seq), ("type", .str "event")] ++ happened.content)

end TealTools.Debugger

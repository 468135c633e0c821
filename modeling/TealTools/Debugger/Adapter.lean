import TealTools.Assembly.Program
import TealTools.Debugger.LaunchArguments
import TealTools.Debugger.Message
import TealTools.Debugger.Replay
import TealTools.Files
import TealTools.Node.Simulate
import TealTools.Text.Blank

/-!
# The debug adapter

The adapter replays a recorded or simulated execution for an editor.  A
request is carried out on the state of the adapter; it ends in a body and the
events that follow the response, or in a failure.
-/

namespace TealTools.Debugger

/-- Where execution data may come from, besides the session's own. -/
structure Environment where
  files : Files
  network : Node.Network

structure Adapter where
  config : Config
  /-- The endpoint of the command line, in place of the configured one. -/
  live : Option Node.Endpoint
  /-- An execution on record, in place of any endpoint. -/
  recorded : Option Simulation
  program : Option String
  sourceMap : SourceMap
  stopOnEntry : Bool
  /-- The lines to stop on, in increasing order. -/
  breakpoints : List Nat
  replay : Option Replay
  /-- Has the editor said that its set-up is complete? -/
  configured : Bool
  deriving Repr

/-- Why there is nothing to replay. -/
inductive TraceError where
  | noSource
  | noRequest
  | endpoint (cause : Node.EndpointError)
  deriving DecidableEq, Repr

def TraceError.message : TraceError → String
  | noSource => "no replay file or algod endpoint configured"
  | noRequest => "live mode requires a `simulate` request in the debug config"
  | endpoint cause => cause.message

inductive EvaluationError where
  | finished
  | unsupported (expression : String)
  | notSet (expression : String)
  deriving DecidableEq, Repr

def EvaluationError.message : EvaluationError → String
  | finished => "execution has finished"
  | unsupported expression =>
    "unsupported expression " ++ Text.quoted expression
  | notSet expression => s!"{expression} is not set"

/-- Why a request is refused. -/
inductive AdapterError where
  | unhandled (command : IdleCommand)
  | launchArguments (fault : Json.Fault)
  | program (path : String) (cause : FileError)
  | trace (cause : TraceError)
  | simulate (cause : Node.SimulateError)
  | notLaunched
  | evaluation (cause : EvaluationError)

def AdapterError.message : AdapterError → String
  | unhandled command => "Unhandled command: " ++ command.describe
  | launchArguments fault =>
    "Failed to deserialize launch arguments: " ++ fault.message
  | program path cause => s!"Failed to read program {path}: {cause.message}"
  | trace cause => "No execution trace available: " ++ cause.message
  | simulate cause => "Simulate request failed: " ++ cause.message
  | notLaunched => "Not launched"
  | evaluation cause => "Evaluation error: " ++ cause.message

/-- A request that was carried out. -/
structure Reply where
  body : Body
  events : List Event

/-- The adapter behind a request, how the request ended, and what was sent to
a node for it. -/
structure Outcome where
  adapter : Adapter
  result : Except AdapterError Reply
  sent : List Node.Request

/-- A request that was carried out without a node. -/
def Outcome.done (adapter : Adapter) (body : Body) (events : List Event) :
    Outcome :=
  { adapter, result := .ok { body, events }, sent := [] }

/-- A request that was refused. -/
def Outcome.refused (adapter : Adapter) (cause : AdapterError) : Outcome :=
  { adapter, result := .error cause, sent := [] }

/-- The messages that answer a request. -/
def Outcome.messages (outcome : Outcome) (request : Request) :
    List Message :=
  match outcome.result with
  | .ok reply =>
    .success request.seq request.command.name reply.body ::
      reply.events.map .event
  | .error cause => [.failure request.seq cause.message]

namespace Adapter

/-- An adapter without sources. -/
def empty : Adapter :=
  { config := .empty, live := none, recorded := none, program := none
    sourceMap := .empty, stopOnEntry := false, breakpoints := []
    replay := none, configured := false }

def isLaunched (adapter : Adapter) : Bool :=
  adapter.replay.isSome

/-- Adds a line to lines in increasing order. -/
def insertLine (line : Nat) : List Nat → List Nat
  | [] => [line]
  | other :: rest =>
    if line < other then line :: other :: rest
    else if line = other then other :: rest
    else other :: insertLine line rest

/-- Does the program counter belong to one of the lines? -/
def stopsAt (map : SourceMap) (lines : List Nat) (pc : UInt64) : Bool :=
  match map.lineForPc? pc.toNat with
  | some line => lines.contains line
  | none => false

def isBreakpoint (adapter : Adapter) (pc : UInt64) : Bool :=
  stopsAt adapter.sourceMap adapter.breakpoints pc

/-! ## Launching -/

/-- The execution to replay, and what was sent to a node for it. -/
def trace (adapter : Adapter) (network : Node.Network) :
    Except AdapterError Simulation × List Node.Request :=
  match adapter.recorded with
  | some simulation => (.ok simulation, [])
  | none =>
    let endpoint : Except TraceError Node.Endpoint :=
      match adapter.live, adapter.config.node with
      | some endpoint, _ => .ok endpoint
      | none, some node =>
        (Node.Endpoint.parse node.address node.token).mapError .endpoint
      | none, none => .error .noSource
    match endpoint, adapter.config.simulate with
    | .error cause, _ => (.error (.trace cause), [])
    | .ok _, none => (.error (.trace .noRequest), [])
    | .ok endpoint, some request =>
      let (result, sent) := Node.simulate network endpoint request
      (result.mapError .simulate, sent)

/-- The source map of the selected program; without a program the old map
stays. -/
def loadProgram (adapter : Adapter) (files : Files) :
    Except AdapterError Adapter :=
  match adapter.program with
  | none => .ok adapter
  | some path =>
    match files.readText (Text.utf8 path.toList) with
    | .error cause => .error (.program path cause)
    | .ok source => .ok { adapter with sourceMap := (assemble source).sourceMap }

/-- Selects the program and loads its map and its trace.  What was already
changed stays changed if a later step fails. -/
def load (adapter : Adapter) (environment : Environment)
    (arguments : LaunchArguments) :
    Adapter × Except AdapterError Unit × List Node.Request :=
  let selected :=
    { adapter with
      program := arguments.program <|> adapter.config.program
      stopOnEntry :=
        (arguments.stopOnEntry <|> adapter.config.stopOnEntry).getD false }
  match selected.loadProgram environment.files with
  | .error cause => (selected, .error cause, [])
  | .ok mapped =>
    match mapped.trace environment.network with
    | (.error cause, sent) => (mapped, .error cause, sent)
    | (.ok simulation, sent) =>
      ({ mapped with replay := some (.ofSimulation simulation) }, .ok (), sent)

/-! ## Executing -/

/-- The event that reports where a replay stands. -/
def standing (reason : StopReason) (replay : Replay) : Event :=
  match replay.pc? with
  | some pc => .stopped reason pc
  | none => .terminated

/-- Runs to the next breakpoint or to the end. -/
def runToBreakpoint (adapter : Adapter) (replay : Replay) :
    Adapter × List Event :=
  let (hit, after) := replay.resume adapter.isBreakpoint
  let event : Event :=
    match after.pc? with
    | some pc => if hit then .stopped .breakpoint pc else .terminated
    | none => .terminated
  ({ adapter with replay := some after }, [event])

/-- Begins the execution of an adapter that is launched and configured. -/
def start (adapter : Adapter) : Adapter × List Event :=
  match adapter.replay with
  | none => (adapter, [.terminated])
  | some replay =>
    match replay.pc? with
    | none => (adapter, [.terminated])
    | some pc =>
      if adapter.stopOnEntry then (adapter, [.stopped .entry pc])
      else if adapter.isBreakpoint pc then
        (adapter, [.stopped .breakpoint pc])
      else adapter.runToBreakpoint replay

/-- Advances the replay and reports where it stands. -/
def advance (adapter : Adapter) (move : Replay → Bool × Replay) :
    Except AdapterError (Adapter × List Event) :=
  match adapter.replay with
  | none => .error .notLaunched
  | some replay =>
    let (_, after) := move replay
    .ok ({ adapter with replay := some after }, [standing .step after])

/-! ## Inspecting -/

/-- The program as a source file. -/
def source? (adapter : Adapter) : Option SourceFile :=
  adapter.program.map fun path =>
    { path
      name := (Files.fileName? path.toList).map String.ofList }

/-- The only frame, unless nothing is running. -/
def frames (adapter : Adapter) : List Frame :=
  match adapter.replay with
  | none => []
  | some replay =>
    match replay.pc?, replay.label? with
    | some pc, some label =>
      [{ name := s!"{label} pc {pc}"
         line := (adapter.sourceMap.lineForPc? pc.toNat).getD 0
         source := adapter.source? }]
    | _, _ => []

/-- A value of a scope as a variable. -/
def scopeVariable (scope name : String) (value : AvmValue) : Variable :=
  { name
    value := value.display
    type := value.typeName
    expression := scope ++ "[" ++ name ++ "]" }

/-- Variables for the values of a stack, numbered from the given one. -/
def stackVariables : Nat → List AvmValue → List Variable
  | _, [] => []
  | index, value :: values =>
    scopeVariable "stack" (toString index) value ::
      stackVariables (index + 1) values

/-- The variables of a scope. -/
def scopeVariables (adapter : Adapter) (reference : Int) : List Variable :=
  match adapter.replay with
  | none => []
  | some replay =>
    if reference = stackReference then stackVariables 0 replay.stack
    else if reference = scratchReference then
      replay.scratch.map fun (slot, value) =>
        scopeVariable "scratch" (toString slot) value
    else []

/-- What stands behind a given text. -/
def dropStart? : List Char → List Char → Option (List Char)
  | [], text => some text
  | _ :: _, [] => none
  | c :: start, d :: text => if c = d then dropStart? start text else none

/-- The number between brackets behind the name of a scope. -/
def index? (scope : String) (expression : List Char) : Option Nat := do
  let inner ← dropStart? (scope.toList ++ ['[']) expression
  match inner.reverse with
  | ']' :: digits => Text.nat? 10 UInt64.size (Text.trim digits.reverse)
  | _ => none

/-- The value of `pc`, `stack[N]` or `scratch[N]`, and its type. -/
def evaluate (adapter : Adapter) (expression : String) :
    Except AdapterError (String × String) :=
  match adapter.replay with
  | none => .error .notLaunched
  | some replay =>
    let trimmed := Text.trim expression.toList
    let shown := String.ofList trimmed
    if shown = "pc" then
      match replay.pc? with
      | some pc => .ok (toString pc, "uint64")
      | none => .error (.evaluation .finished)
    else
      let found : Except AdapterError (Option AvmValue) :=
        match index? "stack" trimmed, index? "scratch" trimmed with
        | some index, _ => .ok replay.stack[index]?
        | none, some slot => .ok (replay.scratch.get? (UInt64.ofNat slot))
        | none, none => .error (.evaluation (.unsupported shown))
      match found with
      | .error cause => .error cause
      | .ok (some value) => .ok (value.display, value.typeName)
      | .ok none => .error (.evaluation (.notSet shown))

/-! ## Breakpoints -/

/-- The line that a request means; a negative one counts as zero. -/
def lineOf (breakpoint : BreakpointRequest) : Nat :=
  breakpoint.line.toNat

/-- A line is verified if an instruction stands on it, or as long as there is
no program to look at. -/
def isVerified (adapter : Adapter) (line : Nat) : Bool :=
  adapter.program.isNone || !(adapter.sourceMap.pcsForLine line).isEmpty

/-- Answers for requested breakpoints, numbered from the given one. -/
def breakpointReplies (adapter : Adapter) (source : Json) :
    Nat → List BreakpointRequest → List BreakpointReply
  | _, [] => []
  | id, breakpoint :: breakpoints =>
    { id
      verified := adapter.isVerified (lineOf breakpoint)
      requested := breakpoint
      source } :: breakpointReplies adapter source (id + 1) breakpoints

/-- Replaces all breakpoints by the requested ones. -/
def setBreakpoints (adapter : Adapter)
    (breakpoints : List BreakpointRequest) : Adapter :=
  { adapter with
    breakpoints := breakpoints.foldl
      (fun lines breakpoint => insertLine (lineOf breakpoint) lines) [] }

/-! ## Requests -/

/-- Launches a program, and begins its execution if the set-up is
complete. -/
def launch (adapter : Adapter) (environment : Environment)
    (arguments : Json) : Outcome :=
  match LaunchArguments.ofRequest arguments with
  | .error fault => Outcome.refused adapter (.launchArguments fault)
  | .ok arguments =>
    match adapter.load environment arguments with
    | (loaded, .error cause, sent) =>
      { adapter := loaded, result := .error cause, sent }
    | (loaded, .ok (), sent) =>
      let (started, events) :=
        if loaded.configured then loaded.start else (loaded, [])
      { adapter := started, result := .ok { body := .done, events }, sent }

/-- A command that advances the replay. -/
def move (adapter : Adapter) (step : Replay → Bool × Replay) : Outcome :=
  match adapter.advance step with
  | .error cause => Outcome.refused adapter cause
  | .ok (moved, events) => Outcome.done moved .done events

/-- Carries out a command. -/
def execute (adapter : Adapter) (environment : Environment) :
    Command → Outcome
  | .capabilities => Outcome.done adapter .capabilities [.ready]
  | .launch arguments => adapter.launch environment arguments
  | .setExceptionBreakpoints => Outcome.done adapter .exceptionBreakpoints []
  | .setBreakpoints source breakpoints =>
    Outcome.done (adapter.setBreakpoints breakpoints)
      (.breakpoints (adapter.breakpointReplies source 1 breakpoints)) []
  | .configurationDone =>
    let configured := { adapter with configured := true }
    let (started, events) :=
      if configured.isLaunched then configured.start else (configured, [])
    Outcome.done started .done events
  | .threads => Outcome.done adapter .threads []
  | .stackTrace => Outcome.done adapter (.frames adapter.frames) []
  | .scopes => Outcome.done adapter .scopes []
  | .inspect reference =>
    Outcome.done adapter (.scope (adapter.scopeVariables reference)) []
  | .resume =>
    match adapter.replay with
    | none => Outcome.refused adapter .notLaunched
    | some replay =>
      let (stopped, events) := adapter.runToBreakpoint replay
      Outcome.done stopped .resumed events
  | .next => adapter.move Replay.stepInto
  | .stepIn => adapter.move Replay.stepInto
  | .stepOut => adapter.move Replay.stepOut
  | .evaluate expression =>
    match adapter.evaluate expression with
    | .error cause => Outcome.refused adapter cause
    | .ok (value, type) => Outcome.done adapter (.evaluated value type) []
  | .disconnect => Outcome.done { adapter with replay := none } .done []
  | .idle command => Outcome.refused adapter (.unhandled command)

/-- Does the session end behind this command? -/
def endsSession : Command → Bool
  | .disconnect => true
  | _ => false

end Adapter

end TealTools.Debugger

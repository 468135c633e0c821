import TealTools.Debugger.Arguments

/-!
# Requests of an editor

A request has a number, a command and the arguments of that command.
-/

namespace TealTools.Debugger

/-- A line on which execution should stop. -/
structure BreakpointRequest where
  line : Int
  column : Option Int
  deriving DecidableEq, Repr

/-- A command that is understood but never carried out. -/
structure IdleCommand where
  name : String
  arguments : Option Json.Reading
  deriving Repr

/-- The command with its arguments, as a message shows it. -/
def IdleCommand.describe (command : IdleCommand) : String :=
  Json.Reading.capitalized command.name ++
    match command.arguments with
    | none => ""
    | some arguments => "(" ++ arguments.describe ++ ")"

inductive Command where
  /-- Asks for the capabilities of the adapter. -/
  | capabilities
  /-- Launches a program, with arguments that are looked at later. -/
  | launch (arguments : Json)
  | setExceptionBreakpoints
  | setBreakpoints (source : Json) (breakpoints : List BreakpointRequest)
  | configurationDone
  | threads
  | stackTrace
  | scopes
  /-- Asks for the variables of a scope. -/
  | inspect (reference : Int)
  | resume
  | next
  | stepIn
  | stepOut
  | evaluate (expression : String)
  | disconnect
  | idle (command : IdleCommand)
  deriving Repr

structure Request where
  seq : Int
  command : Command
  deriving Repr

namespace Command

/-- A requested breakpoint. -/
def breakpoint? (reading : Json.Reading) : Option BreakpointRequest := do
  return { line := ← (← reading.field? "line").number?
           column := (reading.givenField? "column").bind
             Json.Reading.number? }

/-- The breakpoints of a source. -/
def setBreakpoints? (reading : Json.Reading) : Option Command := do
  let source ← reading.field? "source"
  let breakpoints ← match reading.givenField? "breakpoints" with
    | none => some []
    | some list => (← list.items?).mapM breakpoint?
  return setBreakpoints source.toJson breakpoints

/-- A command from its name and its arguments. -/
def withArguments? (name : String) (arguments : Json.Reading) :
    Option Command :=
  match name with
  | "initialize" => some capabilities
  | "launch" => do
    let other ← arguments.givenField? Arguments.additionalData
    return launch (← other.document?)
  | "setExceptionBreakpoints" => some setExceptionBreakpoints
  | "setBreakpoints" => setBreakpoints? arguments
  | "stackTrace" => some stackTrace
  | "scopes" => some scopes
  | "variables" => do
    return inspect (← (← arguments.field? "variables_reference").number?)
  | "continue" => some resume
  | "next" => some next
  | "stepIn" => some stepIn
  | "stepOut" => some stepOut
  | "evaluate" => do
    return evaluate (← (← arguments.field? "expression").text?)
  | "disconnect" => some disconnect
  | name => some (idle { name, arguments := some arguments })

/-- A command without arguments. -/
def bare (name : String) : Command :=
  match name with
  | "configurationDone" => configurationDone
  | "threads" => threads
  | name => idle { name, arguments := none }

/-- A command from its name and what is sent along. -/
def decode? (name : String) (sent : Option Json) : Option Command :=
  match Arguments.shapes.lookup name with
  | some shape => do
    let arguments ← (shape.read true (← sent)).toOption
    withArguments? name arguments
  | none =>
    match sent with
    | none | some .null => some (bare name)
    | some _ => none

/-- The name under which a response repeats the command. -/
def name : Command → String
  | capabilities => "initialize"
  | launch _ => "launch"
  | setExceptionBreakpoints => "setExceptionBreakpoints"
  | setBreakpoints _ _ => "setBreakpoints"
  | configurationDone => "configurationDone"
  | threads => "threads"
  | stackTrace => "stackTrace"
  | scopes => "scopes"
  | inspect _ => "variables"
  | resume => "continue"
  | next => "next"
  | stepIn => "stepIn"
  | stepOut => "stepOut"
  | evaluate _ => "evaluate"
  | disconnect => "disconnect"
  | idle _ => ""

end Command

/-- The request that a document describes. -/
def Request.decode? (json : Json) : Option Request := do
  let _ ← json.normal? Json.maxDepth
  match json with
  | .object members =>
    match ← ["seq", "command", "arguments"].mapM (Json.member? members) with
    | [seq, command, arguments] =>
      let sent := match arguments with
        | .value json => some json
        | _ => none
      let seq ← seq.required Json.int64?
      let name ← command.required fun json =>
        match Json.Shape.readName true Arguments.commands json with
        | .ok (.chosen name) => some name
        | _ => none
      return { seq, command := ← Command.decode? name sent }
    | _ => none
  | _ => none

end TealTools.Debugger

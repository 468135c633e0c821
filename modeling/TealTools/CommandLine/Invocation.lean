import TealTools.CommandLine.Flags
import TealTools.CommandLine.Usage
import TealTools.Debugger.Sources
import TealTools.Text.Quoted

/-!
# Invocations

Without a command the program serves an editor; the command `dbg` starts a
debug adapter.  Both have options of their own.
-/

namespace TealTools.CommandLine

/-- How to serve an editor. -/
structure ServeOptions where
  network : String
  address : String
  /-- Where to log the traffic, if not empty. -/
  log : String
  deriving DecidableEq, Repr

/-- How to debug. -/
structure DebugOptions where
  /-- Where to log the traffic, if not empty. -/
  log : String
  config : Option Bytes
  node : Option String
  token : String
  replay : Option Bytes
  deriving DecidableEq, Repr

structure Invocation where
  debug : Option DebugOptions
  serve : ServeOptions
  deriving DecidableEq, Repr

/-- The path of a log, unless it is empty. -/
def logPath? (log : String) : Option Bytes :=
  if log.isEmpty then none else some (Text.utf8 log.toList)

def ServeOptions.usage : Usage :=
  { options := [("net", .text), ("addr", .text), ("debug", .text)]
    commands := ["dbg", "help"]
    hasVersion := true }

def DebugOptions.usage : Usage :=
  { options :=
      [("debug", .text), ("config", .path), ("algod", .text),
       ("algod-token", .text), ("replay", .path)]
    commands := []
    hasVersion := false }

/-- The value of a text option. -/
def text? (settled : Settled) (name : String) : Option String :=
  (settled.lookup name).map fun value => String.ofList (Text.ofUtf8 value)

def ServeOptions.ofSettled (settled : Settled) : ServeOptions :=
  { network := (text? settled "net").getD "tcp"
    address := (text? settled "addr").getD ""
    log := (text? settled "debug").getD "" }

def DebugOptions.ofSettled (settled : Settled) : DebugOptions :=
  { log := (text? settled "debug").getD ""
    config := settled.lookup "config"
    node := text? settled "algod"
    token := (text? settled "algod-token").getD ""
    replay := settled.lookup "replay" }

/-- The sources of the debug session. -/
def DebugOptions.sources (options : DebugOptions) : Debugger.Sources :=
  { log := logPath? options.log
    config := options.config
    node := options.node
    token := options.token
    replay := options.replay }

namespace Invocation

/-- Help is given for the program and for each of its commands. -/
def help : List Bytes → Refusal
  | [] => .help
  | [command] =>
    let commands := ServeOptions.usage.commands
    if commands.any fun name => Text.utf8 name.toList = command then .help
    else .unknownCommand
  | _ => .unknownCommand

/-- Reads arguments in normal form. -/
def parse (arguments : List Bytes) : Except Refusal Invocation := do
  match ← ServeOptions.usage.read .empty arguments with
  | (settled, none) =>
    return { debug := none, serve := .ofSettled settled }
  | (settled, some ("dbg", more)) =>
    let (options, _) ← DebugOptions.usage.read .empty more
    return { debug := some (.ofSettled options), serve := .ofSettled settled }
  | (_, some (_, more)) => .error (help more)

/-- Reads arguments as they are given. -/
def ofArguments (arguments : List Bytes) : Except Refusal Invocation :=
  parse (normalize arguments)

/-! ## Description -/

private def record (name : String) (fields : List (String × String)) :
    String :=
  name ++ " \x7b " ++
    ", ".intercalate (fields.map fun (field, value) => field ++ ": " ++ value)
    ++ " \x7d"

private def optional {α : Type} (shown : α → String) : Option α → String
  | none => "None"
  | some value => "Some(" ++ shown value ++ ")"

def describeServe (options : ServeOptions) : String :=
  record "LspArgs"
    [("net", Text.quoted options.network),
     ("addr", Text.quoted options.address),
     ("debug", Text.quoted options.log)]

def describeDebug (options : DebugOptions) : String :=
  "Dbg(" ++ record "DbgArgs"
    [("debug", Text.quoted options.log),
     ("config", optional Text.quotedPath options.config),
     ("algod", optional Text.quoted options.node),
     ("algod_token", Text.quoted options.token),
     ("replay", optional Text.quotedPath options.replay)] ++ ")"

/-- The invocation with all its options. -/
def describe (invocation : Invocation) : String :=
  record "Cli"
    [("commands", optional describeDebug invocation.debug),
     ("lsp", describeServe invocation.serve)]

end Invocation

end TealTools.CommandLine

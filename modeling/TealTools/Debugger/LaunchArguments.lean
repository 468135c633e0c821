import TealTools.Debugger.Config
import TealTools.Json.Shape

/-!
# Launch arguments

What an editor sends along when it launches a program.  An argument of the
wrong type is refused with a message that says what was found instead.
-/

namespace TealTools.Debugger

structure LaunchArguments where
  program : Option String
  stopOnEntry : Option Bool
  deriving DecidableEq, Repr

namespace LaunchArguments

def toJson (arguments : LaunchArguments) : Json :=
  .obj
    [("program", Json.ofOption .str arguments.program),
     ("stopOnEntry", Json.ofOption .bool arguments.stopOnEntry)]

/-- The arguments that a document describes. -/
def decode? (json : Json) : Option LaunchArguments := do
  match ← json.fields? ["program", "stopOnEntry"] with
  | [program, stopOnEntry] =>
    return { program := ← program.optional Json.string?
             stopOnEntry := ← stopOnEntry.optional Json.bool? }
  | _ => none

/-- What the arguments of a launch request look like. -/
def shape : Json.Shape :=
  .record "LaunchArgs"
    [(⟨"program", "program"⟩, .optional .path),
     (⟨"stopOnEntry", "stop_on_entry"⟩, .optional .flag)]

/-- The arguments of a launch request; other members are ignored. -/
def ofRequest (json : Json) : Except Json.Fault LaunchArguments := do
  let reading ← shape.read false json
  return { program := (reading.givenField? "program").bind Json.Reading.text?
           stopOnEntry := (reading.givenField? "stop_on_entry").bind
             Json.Reading.flag? }

end LaunchArguments

end TealTools.Debugger

import TealTools.Assembly.Program
import TealTools.Json.Basic

/-!
# Diagnostics for an editor

Faults count lines and columns from one, and columns in characters; an editor
counts from zero, and columns in UTF-16 units.  A coordinate of zero means
that the position is unknown and stays zero.
-/

namespace TealTools

inductive Severity where
  | error
  | warning
  deriving DecidableEq, Repr

/-- A place in a document, counted from zero. -/
structure Position where
  line : Nat
  character : Nat
  deriving DecidableEq, Repr

def Position.origin : Position := { line := 0, character := 0 }

/-- A message at a single position. -/
structure Diagnostic where
  position : Position
  severity : Severity
  message : String
  deriving DecidableEq, Repr

namespace Diagnostic

/-- The largest coordinate. -/
def maxCoordinate : Nat := UInt32.size - 1

/-- A coordinate counted from zero, cut off at the largest one. -/
def zeroBased (coordinate : Nat) : Nat :=
  min (coordinate - 1) maxCoordinate

def ofFault (fault : Assembly.LineFault) : Diagnostic :=
  { position := ⟨zeroBased fault.line, zeroBased fault.column⟩
    severity := .error
    message := fault.cause.message }

def ofWarning (warning : Assembly.Warning) : Diagnostic :=
  { position := .origin, severity := .warning, message := warning.message }

def ofFailure (failure : Assembly.Failure) : Diagnostic :=
  { position := .origin, severity := .error, message := failure.message }

/-- The faults and then the warnings.  A failure is reported on its own only
if there is nothing more specific. -/
def ofAssembly (assembly : Assembly) : List Diagnostic :=
  let fallback :=
    if assembly.faults.isEmpty && assembly.warnings.isEmpty then
      assembly.failure.toList.map ofFailure
    else []
  fallback ++ assembly.faults.map ofFault ++ assembly.warnings.map ofWarning

/-- The width of the first characters of a line, cut off at the largest
coordinate. -/
def widthOf (line : List Char) (characters : Nat) : Nat :=
  min (Text.utf16Length (line.take characters)) maxCoordinate

/-- Counts the column in UTF-16 units of the line that the diagnostic is
on. -/
def measured (lines : List (List Char)) (diagnostic : Diagnostic) :
    Diagnostic :=
  match lines[diagnostic.position.line]? with
  | none => diagnostic
  | some line =>
    let character := widthOf line diagnostic.position.character
    { diagnostic with
      position := { diagnostic.position with character := character } }

/-- The diagnostics of a source text. -/
def ofSource (source : String) : List Diagnostic :=
  (ofAssembly (assemble source)).map (measured (Text.lines source.toList))

def Severity.code : Severity → Nat
  | .error => 1
  | .warning => 2

def positionJson (position : Position) : Json :=
  .obj [("line", .nat position.line), ("character", .nat position.character)]

def toJson (diagnostic : Diagnostic) : Json :=
  .obj
    [("range", .obj
      [("start", positionJson diagnostic.position),
       ("end", positionJson diagnostic.position)]),
     ("severity", .nat (Severity.code diagnostic.severity)),
     ("message", .str diagnostic.message)]

end Diagnostic

end TealTools

import TealTools.Assembly.Layout
import TealTools.SourceMap
import TealTools.Text.Lines

/-!
# Assembled programs

A source text is assembled as a whole: every fault is reported, in the order
of the lines, and there is bytecode only if there is no fault and the program
is not too large.
-/

namespace TealTools

/-- The outcome of assembling a source text. -/
structure Assembly where
  version : Nat
  /-- Empty whenever there is a failure. -/
  bytecode : Bytes
  faults : List Assembly.LineFault
  warnings : List Assembly.Warning
  failure : Option Assembly.Failure
  sourceMap : SourceMap
  deriving DecidableEq, Repr

namespace Assembly

/-- The version of a program that selects none. -/
def defaultVersion : Nat := 1

/-- The largest program, in bytes. -/
def maxProgramSize : Nat := 8192

/-- Nothing at all to report. -/
def isClean (assembly : Assembly) : Bool :=
  assembly.faults.isEmpty && assembly.warnings.isEmpty &&
    assembly.failure.isNone

/-- The faults of a placed line, those of its label and body first. -/
def Placed.allFaults (labels : List (String × Nat)) (placed : Placed) :
    List LineFault :=
  (placed.faults ++ placed.branchFaults labels).map fun fault =>
    ⟨placed.line, fault.column, fault.value⟩

/-- The labels that no accepted instruction names, in definition order. -/
def unusedLabels (labels : List (String × Nat)) (placed : List Placed) :
    List String :=
  let used := placed.flatMap fun line => line.references.map At.value
  (labels.map (·.1)).filter fun name => !used.contains name

/-- Where the accepted instructions begin, behind a header of the given
size. -/
def placedMap (header : Nat) (placed : List Placed) : SourceMap :=
  { entries := placed.filterMap fun line =>
      line.instruction.map fun (offset, _) => (header + offset, line.line) }

/-- The outcome of a layout. -/
def ofLayout (site : Site) (placed : List Placed) : Assembly :=
  let version := site.version.getD defaultVersion
  let header := Codec.varuint version
  let faults := placed.flatMap (Placed.allFaults site.labels)
  let missing :=
    if site.version.isNone then [Warning.missingVersion defaultVersion]
    else []
  let unused := (unusedLabels site.labels placed).map Warning.unusedLabel
  let code := header ++ placed.flatMap (Placed.encode site.labels)
  let failure :=
    if !faults.isEmpty then some (Failure.lineFaults faults.length)
    else if code.length > maxProgramSize then
      some (Failure.programTooLarge code.length maxProgramSize)
    else none
  { version := version
    bytecode := if failure.isSome then [] else code
    faults := faults
    warnings := missing ++ unused
    failure := failure
    sourceMap := placedMap header.length placed }

/-- The layout of source lines. -/
def layout (lines : List (List Char)) : Site × List Placed :=
  Site.start.placeAll 1 (lines.map readLine)

/-- Assembles source lines. -/
def ofLines (lines : List (List Char)) : Assembly :=
  let (site, placed) := layout lines
  ofLayout site placed

end Assembly

/-- Assembles a source text. -/
def assemble (source : String) : Assembly :=
  Assembly.ofLines (Text.lines source.toList)

end TealTools

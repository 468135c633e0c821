import TealTools.Assembly.Statement

/-!
# Layout of a program

Lines are placed one after the other.  Each instruction gets the offset at
which the code so far ends, and each label the offset of what follows it.
Branches are resolved afterwards, against all labels of the program.
-/

namespace TealTools.Assembly

/-- What is known in front of a line. -/
structure Site where
  /-- The size of the code so far. -/
  offset : Nat
  /-- The labels defined so far, in order, and what they stand for. -/
  labels : List (String × Nat)
  /-- The version last selected. -/
  version : Option Nat
  /-- Has a line with an operation been seen? -/
  started : Bool
  deriving DecidableEq, Repr

def Site.start : Site :=
  { offset := 0, labels := [], version := none, started := false }

/-- A line in its place. -/
structure Placed where
  line : Nat
  /-- Faults that do not depend on other lines' labels. -/
  faults : List (At Fault)
  /-- The accepted instruction and its offset. -/
  instruction : Option (Nat × Instruction (At String))
  deriving DecidableEq, Repr

/-- Is this a name that a label may have? -/
def isLabelName (name : String) : Bool :=
  !name.isEmpty && name.toList.all fun c => c ≠ ':' ∧ c ≠ '"' ∧ c ≠ '#'

/-- Defines a label at the end of the code so far.  The first definition of a
name stays in force. -/
def Site.define (site : Site) (name : String) : Except Fault Site :=
  if !isLabelName name then .error (.invalidLabel name)
  else if (site.labels.lookup name).isSome then .error (.duplicateLabel name)
  else .ok { site with labels := site.labels ++ [(name, site.offset)] }

/-- Places the label of a statement. -/
def Site.placeLabel (site : Site) :
    Option (At String) → Site × List (At Fault)
  | none => (site, [])
  | some label =>
    match site.define label.value with
    | .ok site => (site, [])
    | .error fault => (site, [⟨label.column, fault⟩])

/-- Places what follows the label of a statement. -/
def Site.placeBody (site : Site) (line : Nat) : Body → Site × Placed
  | .empty => (site, ⟨line, [], none⟩)
  | .misplaced fault => (site, ⟨line, [fault], none⟩)
  | .directive _ (.error fault) => (site, ⟨line, [fault], none⟩)
  | .directive column (.ok version) =>
    if site.started then
      (site, ⟨line, [⟨column, .pragmaAfterInstructions⟩], none⟩)
    else ({ site with version := some version }, ⟨line, [], none⟩)
  | .instruction (.error fault) =>
    ({ site with started := true }, ⟨line, [fault], none⟩)
  | .instruction (.ok instruction) =>
    ({ site with started := true, offset := site.offset + instruction.size },
      ⟨line, [], some (site.offset, instruction)⟩)

/-- Places one line. -/
def Site.place (site : Site) (line : Nat) :
    Reading Statement → Site × Placed
  | .error fault => (site, ⟨line, [fault], none⟩)
  | .ok statement =>
    let (site, labelFaults) := site.placeLabel statement.label
    let (site, placed) := site.placeBody line statement.body
    (site, { placed with faults := labelFaults ++ placed.faults })

/-- Places lines that are numbered from the given one. -/
def Site.placeAll (site : Site) (line : Nat) :
    List (Reading Statement) → Site × List Placed
  | [] => (site, [])
  | statement :: rest =>
    let (site, placed) := site.place line statement
    let (site, more) := site.placeAll (line + 1) rest
    (site, placed :: more)

/-- The offset that leads from the end of an instruction to a label. -/
def branchOffset (labels : List (String × Nat)) (base : Nat) (name : String) :
    Except Fault Int16 :=
  match labels.lookup name with
  | none => .error (.undefinedLabel name)
  | some target =>
    let delta := (target : Int) - base
    if -32768 ≤ delta ∧ delta ≤ 32767 then .ok (Int16.ofInt delta)
    else .error (.branchTooFar name)

/-- The labels that the accepted instruction names. -/
def Placed.references (placed : Placed) : List (At String) :=
  match placed.instruction with
  | none => []
  | some (_, instruction) => instruction.targets

/-- The faults of branches that cannot be resolved. -/
def Placed.branchFaults (labels : List (String × Nat)) (placed : Placed) :
    List (At Fault) :=
  match placed.instruction with
  | none => []
  | some (offset, instruction) =>
    instruction.targets.filterMap fun target =>
      match branchOffset labels (offset + instruction.size) target.value with
      | .ok _ => none
      | .error fault => some ⟨target.column, fault⟩

/-- The bytes of the accepted instruction, its branches resolved. -/
def Placed.encode (labels : List (String × Nat)) (placed : Placed) : Bytes :=
  match placed.instruction with
  | none => []
  | some (offset, instruction) =>
    let base := offset + instruction.size
    (instruction.map fun target =>
      (branchOffset labels base target.value).toOption.getD 0).encode

end TealTools.Assembly

import TealTools.Codec.Varuint

/-!
# Instructions

An instruction is a code with its operands.  Branch targets are a parameter:
the assembler first holds the labels that the source names, and replaces them
by offsets once every label has its place.  The size of an instruction does
not depend on its targets.
-/

namespace TealTools

inductive Operand (target : Type) where
  | byte (value : UInt8)
  | int (value : Nat)
  | bytes (value : Bytes)
  | branch (goal : target)
  | branches (goals : List target)
  | ints (values : List Nat)
  | strings (values : List Bytes)
  deriving DecidableEq, Repr

namespace Operand

variable {target other : Type}

/-- The branch targets, in encoding order. -/
def targets : Operand target → List target
  | branch goal => [goal]
  | branches goals => goals
  | byte _ | int _ | bytes _ | ints _ | strings _ => []

/-- Replaces every branch target. -/
def map (change : target → other) : Operand target → Operand other
  | byte value => byte value
  | int value => int value
  | bytes value => bytes value
  | branch goal => branch (change goal)
  | branches goals => branches (goals.map change)
  | ints values => ints values
  | strings values => strings values

/-- A byte string behind its length. -/
def encodeString (value : Bytes) : Bytes :=
  Codec.varuint value.length ++ value

/-- A branch offset, most significant byte first. -/
def encodeOffset (offset : Int16) : Bytes :=
  [(offset.toUInt16 >>> 8).toUInt8, offset.toUInt16.toUInt8]

def encode : Operand Int16 → Bytes
  | byte value => [value]
  | int value => Codec.varuint value
  | bytes value => encodeString value
  | branch offset => encodeOffset offset
  | branches offsets =>
    UInt8.ofNat offsets.length :: offsets.flatMap encodeOffset
  | ints values => Codec.varuint values.length ++ values.flatMap Codec.varuint
  | strings values =>
    Codec.varuint values.length ++ values.flatMap encodeString

end Operand

structure Instruction (target : Type) where
  code : UInt8
  operands : List (Operand target)
  deriving DecidableEq, Repr

namespace Instruction

variable {target other : Type}

/-- The branch targets, in encoding order. -/
def targets (instruction : Instruction target) : List target :=
  instruction.operands.flatMap Operand.targets

/-- Replaces every branch target. -/
def map (change : target → other) (instruction : Instruction target) :
    Instruction other :=
  { code := instruction.code
    operands := instruction.operands.map (Operand.map change) }

def encode (instruction : Instruction Int16) : Bytes :=
  instruction.code :: instruction.operands.flatMap Operand.encode

/-- The bytes of the instruction before its targets are known. -/
def draft (instruction : Instruction target) : Bytes :=
  (instruction.map fun _ => (0 : Int16)).encode

/-- The number of bytes that the instruction takes. -/
def size (instruction : Instruction target) : Nat :=
  instruction.draft.length

end Instruction

end TealTools

import Mathlib.Data.List.Chain
import Mathlib.Data.List.Forall2
import Mathlib.Data.List.Nodup
import TealTools.Opcode
import TealTools.Proofs.Assembly.Slots
import TealTools.Proofs.Codec.Varuint

/-!
# Disassembly

The table of operations says how bytecode is read back: the code of an
operation tells which immediates follow it, and each immediate tells where it
ends.  Reading an instruction undoes writing it, whatever follows.
-/

namespace TealTools

def Opcode.ofCode? (code : UInt8) : Option Opcode :=
  all.find? fun opcode => opcode.code = code

namespace Disassembly

/-- A value at the head of bytes, and the bytes behind it. -/
abbrev Reader (α : Type) := Bytes → Option (α × Bytes)

section

variable {α β : Type}

def Reader.pure (value : α) : Reader α := fun bytes => some (value, bytes)

def Reader.bind (read : Reader α) (next : α → Reader β) : Reader β :=
  fun bytes =>
    match read bytes with
    | some (value, rest) => next value rest
    | none => none

def Reader.map (change : α → β) (read : Reader α) : Reader β :=
  read.bind fun value => .pure (change value)

/-- The given number of values, one after the other. -/
def Reader.many (read : Reader α) : Nat → Reader (List α)
  | 0 => .pure []
  | count + 1 => read.bind fun value => (read.many count).map (value :: ·)

end

def readByte : Reader UInt8
  | [] => none
  | byte :: rest => some (byte, rest)

def readOffset : Reader Int :=
  readByte.bind fun high => readByte.map fun low =>
    Operand.decodeOffset high low

def readString : Reader Bytes :=
  Reader.bind Codec.readVaruint readByte.many

/-- One immediate of the given kind. -/
def readImmediate : ImmediateKind → Reader (Operand Int)
  | .u8 | .i8 | .field _ => readByte.map .byte
  | .varuint => Reader.map .int Codec.readVaruint
  | .bytes => readString.map .bytes
  | .label => readOffset.map .branch
  | .labels =>
    (readByte.bind fun count => readOffset.many count.toNat).map .branches
  | .intBlock =>
    (Reader.bind Codec.readVaruint (Reader.many Codec.readVaruint)).map .ints
  | .byteBlock =>
    (Reader.bind Codec.readVaruint readString.many).map .strings

def readImmediates : List ImmediateKind → Reader (List (Operand Int))
  | [] => .pure []
  | kind :: kinds => (readImmediate kind).bind fun operand =>
    (readImmediates kinds).map (operand :: ·)

/-- The immediates that the table announces for a code. -/
def readOperands (code : UInt8) : Reader (List (Operand Int)) :=
  match Opcode.ofCode? code with
  | some opcode => readImmediates opcode.immediates
  | none => fun _ => none

/-! ## Readers never go back -/

/-- What is left to read is the end of what there was. -/
def Reader.Advances {α : Type} (read : Reader α) : Prop :=
  ∀ bytes value rest, read bytes = some (value, rest) → rest <:+ bytes

namespace Reader.Advances

variable {α β : Type} {read : Reader α}

theorem pure (value : α) : (Reader.pure value).Advances := by
  intro bytes result rest done
  cases done
  exact List.suffix_rfl

theorem bind {next : α → Reader β} (first : read.Advances)
    (second : ∀ value, (next value).Advances) :
    (read.bind next).Advances := by
  intro bytes result rest done
  unfold Reader.bind at done
  split at done
  · rename_i value behind early
    exact (second value _ _ _ done).trans (first _ _ _ early)
  · cases done

theorem map (change : α → β) (advances : read.Advances) :
    (read.map change).Advances :=
  advances.bind fun _ => .pure _

theorem many (advances : read.Advances) (count : Nat) :
    (read.many count).Advances := by
  induction count with
  | zero => exact .pure []
  | succ count induction =>
      exact advances.bind fun value => induction.map (value :: ·)

end Reader.Advances

theorem readByte_advances : readByte.Advances := by
  intro bytes value rest done
  cases bytes with
  | nil => cases done
  | cons byte tail =>
      cases done
      exact List.suffix_cons _ _

theorem readVaruint_advances : Reader.Advances Codec.readVaruint :=
  fun _ _ _ => Codec.readVaruint_suffix

theorem readOffset_advances : readOffset.Advances :=
  readByte_advances.bind fun _ => readByte_advances.map _

theorem readString_advances : readString.Advances :=
  readVaruint_advances.bind readByte_advances.many

theorem readImmediate_advances (kind : ImmediateKind) :
    (readImmediate kind).Advances := by
  cases kind with
  | u8 => exact readByte_advances.map _
  | i8 => exact readByte_advances.map _
  | field group => exact readByte_advances.map _
  | varuint => exact readVaruint_advances.map _
  | bytes => exact readString_advances.map _
  | label => exact readOffset_advances.map _
  | labels =>
      exact (readByte_advances.bind
        fun count => readOffset_advances.many count.toNat).map _
  | intBlock =>
      exact (readVaruint_advances.bind readVaruint_advances.many).map _
  | byteBlock =>
      exact (readVaruint_advances.bind readString_advances.many).map _

theorem readImmediates_advances (kinds : List ImmediateKind) :
    (readImmediates kinds).Advances := by
  induction kinds with
  | nil => exact .pure []
  | cons kind kinds induction =>
      exact (readImmediate_advances kind).bind
        fun operand => induction.map (operand :: ·)

theorem readOperands_advances (code : UInt8) :
    (readOperands code).Advances := by
  unfold readOperands
  split
  · exact readImmediates_advances _
  · intro bytes value rest done
    cases done

/-- The instructions of code that begins at a program counter. -/
def readCode (pc : Nat) : Bytes → Option (List (Nat × Instruction Int))
  | [] => some []
  | code :: bytes =>
    match _read : readOperands code bytes with
    | none => none
    | some (operands, rest) =>
      (readCode (pc + 1 + (bytes.length - rest.length)) rest).map
        ((pc, ⟨code, operands⟩) :: ·)
termination_by bytes => bytes.length
decreasing_by
  have shorter := (readOperands_advances code _ _ _ _read).length_le
  simp only [List.length_cons]
  omega

/-- The version of a program and its instructions, each with its program
counter. -/
def disassemble (bytes : Bytes) :
    Option (Nat × List (Nat × Instruction Int)) :=
  match Codec.readVaruint bytes with
  | none => none
  | some (version, rest) =>
    (readCode (bytes.length - rest.length) rest).map (version, ·)

/-! ## Reading what was written -/

/-- Bytes that are read as a value, whatever follows them. -/
def Reader.Reads {α : Type} (read : Reader α) (bytes : Bytes) (value : α) :
    Prop :=
  ∀ rest, read (bytes ++ rest) = some (value, rest)

namespace Reader.Reads

variable {α β : Type} {read : Reader α} {bytes : Bytes} {value : α}

theorem pure (value : α) : (Reader.pure value).Reads [] value :=
  fun _ => rfl

theorem bind {next : α → Reader β} {more : Bytes} {result : β}
    (first : read.Reads bytes value)
    (second : (next value).Reads more result) :
    (read.bind next).Reads (bytes ++ more) result := by
  intro rest
  rw [List.append_assoc, Reader.bind, first]
  exact second rest

theorem map (change : α → β) (reads : read.Reads bytes value) :
    (read.map change).Reads bytes (change value) := by
  rw [← List.append_nil bytes]
  exact bind reads (pure (change value))

theorem many {γ : Type} {encode : γ → Bytes} {decode : γ → α}
    (reads : ∀ item, read.Reads (encode item) (decode item))
    (items : List γ) :
    (read.many items.length).Reads (items.flatMap encode)
      (items.map decode) := by
  induction items with
  | nil => exact .pure []
  | cons item items induction =>
      rw [List.length_cons, List.flatMap_cons, List.map_cons]
      exact (reads item).bind (induction.map (decode item :: ·))

end Reader.Reads

theorem readByte_reads (byte : UInt8) : readByte.Reads [byte] byte :=
  fun _ => rfl

theorem readVaruint_reads (value : Nat) :
    Reader.Reads Codec.readVaruint (Codec.varuint value) value :=
  Codec.readVaruint_varuint value

theorem readOffset_reads (offset : Int16) :
    readOffset.Reads (Operand.encodeOffset offset) offset.toInt := by
  obtain ⟨high, low, bytes, value⟩ := Operand.decodeOffset_encodeOffset offset
  rw [bytes, ← value]
  exact (readByte_reads high).bind ((readByte_reads low).map _)

theorem readString_reads (value : Bytes) :
    readString.Reads (Operand.encodeString value) value := by
  have content := Reader.Reads.many readByte_reads value
  rw [List.flatMap_singleton', List.map_id'] at content
  exact (readVaruint_reads value.length).bind content

/-- An operand that an immediate of the given kind may have. -/
inductive Fits {target : Type} : ImmediateKind → Operand target → Prop where
  | u8 (value : UInt8) : Fits .u8 (.byte value)
  | i8 (value : UInt8) : Fits .i8 (.byte value)
  | field (group : FieldGroup) (value : UInt8) :
      Fits (.field group) (.byte value)
  | varuint (value : Nat) : Fits .varuint (.int value)
  | bytes (value : Bytes) : Fits .bytes (.bytes value)
  | label (goal : target) : Fits .label (.branch goal)
  /-- The number of targets takes one byte. -/
  | labels {goals : List target} :
      goals.length ≤ 255 → Fits .labels (.branches goals)
  | intBlock (values : List Nat) : Fits .intBlock (.ints values)
  | byteBlock (values : List Bytes) : Fits .byteBlock (.strings values)

theorem readImmediate_reads {kind : ImmediateKind} {operand : Operand Int16}
    (fits : Fits kind operand) :
    (readImmediate kind).Reads operand.encode
      (operand.map Int16.toInt) := by
  cases fits with
  | u8 value => exact (readByte_reads value).map _
  | i8 value => exact (readByte_reads value).map _
  | field group value => exact (readByte_reads value).map _
  | varuint value => exact (readVaruint_reads value).map _
  | bytes value => exact (readString_reads value).map _
  | label offset => exact (readOffset_reads offset).map _
  | @labels offsets few =>
      have count : (UInt8.ofNat offsets.length).toNat = offsets.length :=
        UInt8.toNat_ofNat_of_lt (by simp only [UInt8.size]; omega)
      have targets := Reader.Reads.many readOffset_reads offsets
      rw [← count] at targets
      exact ((readByte_reads _).bind targets).map _
  | intBlock values =>
      have content := Reader.Reads.many readVaruint_reads values
      rw [List.map_id'] at content
      exact ((readVaruint_reads values.length).bind content).map _
  | byteBlock values =>
      have content := Reader.Reads.many readString_reads values
      rw [List.map_id'] at content
      exact ((readVaruint_reads values.length).bind content).map _

theorem readImmediates_reads {kinds : List ImmediateKind}
    {operands : List (Operand Int16)}
    (fits : List.Forall₂ Fits kinds operands) :
    (readImmediates kinds).Reads (operands.flatMap Operand.encode)
      (operands.map (Operand.map Int16.toInt)) := by
  induction fits with
  | nil => exact .pure []
  | cons first _ induction =>
      exact (readImmediate_reads first).bind (induction.map _)

/-- An instruction of the operation, with the operands that it takes. -/
structure Follows {target : Type} (opcode : Opcode)
    (instruction : Instruction target) : Prop where
  listed : opcode ∈ Opcode.all
  code : instruction.code = opcode.code
  fits : List.Forall₂ Fits opcode.immediates instruction.operands

theorem Fits.map {target other : Type} {kind : ImmediateKind}
    {operand : Operand target} (change : target → other)
    (fits : Fits kind operand) : Fits kind (operand.map change) := by
  cases fits with
  | labels few => exact .labels (by rwa [List.length_map])
  | _ => constructor

theorem Follows.map {target other : Type} {opcode : Opcode}
    {instruction : Instruction target} (change : target → other)
    (follows : Follows opcode instruction) :
    Follows opcode (instruction.map change) where
  listed := follows.listed
  code := follows.code
  fits := by
    rw [Instruction.map, List.forall₂_map_right_iff]
    exact follows.fits.imp fun _ _ => Fits.map change

private theorem codes_increase :
    (Opcode.all.map fun opcode => opcode.code.toNat).IsChain (· < ·) := by
  decide +kernel

/-- No two operations of the table have the same code. -/
private theorem nodup_codes : (Opcode.all.map Opcode.code).Nodup := by
  have increasing := List.isChain_iff_pairwise.mp codes_increase
  rw [List.pairwise_map] at increasing
  rw [List.Nodup, List.pairwise_map]
  exact increasing.imp fun less same => by simp [same] at less

theorem ofCode?_code {opcode : Opcode} (member : opcode ∈ Opcode.all) :
    Opcode.ofCode? opcode.code = some opcode := by
  have known : (Opcode.ofCode? opcode.code).isSome := by
    rw [Opcode.ofCode?, List.find?_isSome]
    exact ⟨opcode, member, decide_eq_true rfl⟩
  obtain ⟨found, first⟩ := Option.isSome_iff_exists.mp known
  have same : found.code = opcode.code := by
    simpa using List.find?_some first
  have listed := List.mem_of_find?_eq_some first
  rw [first, List.inj_on_of_nodup_map nodup_codes listed member same]

theorem Follows.ofCode? {target : Type} {opcode : Opcode}
    {instruction : Instruction target}
    (follows : Follows opcode instruction) :
    Opcode.ofCode? instruction.code = some opcode := by
  rw [follows.code]
  exact ofCode?_code follows.listed

theorem readOperands_reads {opcode : Opcode} {instruction : Instruction Int16}
    (follows : Follows opcode instruction) :
    (readOperands instruction.code).Reads
      (instruction.operands.flatMap Operand.encode)
      (instruction.operands.map (Operand.map Int16.toInt)) := by
  rw [readOperands, follows.ofCode?]
  exact readImmediates_reads follows.fits

theorem readCode_encode {opcode : Opcode} {instruction : Instruction Int16}
    (follows : Follows opcode instruction) (pc : Nat) (rest : Bytes) :
    readCode pc (instruction.encode ++ rest) =
      (readCode (pc + instruction.encode.length) rest).map
        ((pc, instruction.map Int16.toInt) :: ·) := by
  have operands := readOperands_reads follows rest
  have size : (instruction.operands.flatMap Operand.encode ++ rest).length -
      rest.length =
        (instruction.operands.flatMap Operand.encode).length := by
    rw [List.length_append]
    omega
  rw [Instruction.encode, List.cons_append, readCode]
  split
  · rename_i stuck
    rw [operands] at stuck
    cases stuck
  · rename_i values behind done
    rw [operands] at done
    cases done
    rw [size, List.length_cons, Nat.add_assoc,
      Nat.add_comm 1 (List.length _)]
    rfl

end Disassembly

end TealTools

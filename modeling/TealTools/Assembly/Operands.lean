import TealTools.Address
import TealTools.Codec.Base64
import TealTools.Codec.Hex
import TealTools.Instruction
import TealTools.Opcode
import TealTools.Token

/-!
# Operands of a source line

The tokens behind the name of an operation are read as its immediates, one
kind after the other.  Tokens that are missing or left over are a fault of the
operation as a whole; every other fault belongs to a token.
-/

namespace TealTools.Assembly

/-- A value read from tokens, or the first fault among them. -/
abbrev Reading := Except (At Fault)

/-- Reports that an operation has too few or too many immediates. -/
def countFault (operation : At String) (expected : Nat) : At Fault :=
  ⟨operation.column, .immediateCount operation.value (toString expected)⟩

/-- An integer by name, or with `0x` in hexadecimal, with a leading zero in
octal, and otherwise in decimal. -/
def uint? (text : String) : Option Nat :=
  match Opcode.namedInt? text with
  | some value => some value
  | none =>
    match text.toList with
    | '0' :: 'x' :: digits => Text.nat? 16 UInt64.size digits
    | ['0'] => some 0
    | '0' :: digits => Text.nat? 8 UInt64.size digits
    | digits => Text.nat? 10 UInt64.size digits

def readUint (token : Token) : Reading Nat :=
  match uint? token.text with
  | some value => .ok value
  | none => .error ⟨token.column, .invalidInteger token.text⟩

def readU8 (token : Token) : Reading UInt8 := do
  let value ← readUint token
  if value ≤ 255 then .ok (UInt8.ofNat value)
  else .error ⟨token.column, .outOfRange value 255⟩

/-- A signed byte in two's complement. -/
def readI8 (token : Token) : Reading UInt8 :=
  match Text.int? 10 Int64.minValue.toInt Int64.maxValue.toInt
      token.text.toList with
  | none => .error ⟨token.column, .invalidInteger token.text⟩
  | some value =>
    if -128 ≤ value ∧ value ≤ 127 then .ok (UInt8.ofInt value)
    else .error ⟨token.column, .signedOutOfRange value (-128) 127⟩

def readField (group : FieldGroup) (token : Token) : Reading UInt8 :=
  match group.resolve? token.text with
  | some value => .ok value
  | none => .error ⟨token.column, .invalidField token.text⟩

/-- The label that a word names. -/
def readLabel (token : Token) : Reading (At String) :=
  match token.word?.filter fun name => !name.isEmpty with
  | some name => .ok ⟨token.column, name⟩
  | none => .error ⟨token.column, .invalidLabel token.text⟩

/-- The encodings that a byte constant may name. -/
def decoder? (encoding : String) : Option (List Char → Option Bytes) :=
  if encoding = "base64" ∨ encoding = "b64" then some Codec.Base64.decode?
  else if encoding = "base32" ∨ encoding = "b32" then
    some Codec.Base32.decode?
  else none

/-- The bytes of a payload in a named encoding. -/
def decodeNamed (encoding payload : String) : Except Fault Bytes :=
  match decoder? encoding with
  | none => .error (.unsupportedEncoding encoding)
  | some decode =>
    match decode payload.toList with
    | some bytes => .ok bytes
    | none => .error (.invalidByteConstant payload)

/-- Splits `encoding(payload)` at its first opening bracket. -/
def bracketed? (word : List Char) : Option (String × String) :=
  match word.reverse with
  | ')' :: inner =>
    let inner := inner.reverse
    match inner.dropWhile (· ≠ '(') with
    | [] => none
    | _ :: payload =>
      some (String.ofList (inner.takeWhile (· ≠ '(')), String.ofList payload)
  | _ => none

/-- The form in which a byte constant is written: complete in one token, or
with its payload in the next one. -/
inductive ConstantForm where
  | complete (bytes : Bytes)
  | encoded (encoding : String)

/-- The form that the first token of a byte constant announces. -/
def constantForm (token : Token) : Except Fault ConstantForm :=
  match token.kind with
  | .literal bytes => .ok (.complete bytes)
  | .word word =>
    match word.toList with
    | '0' :: 'x' :: digits =>
      match Codec.Hex.decode? digits with
      | some bytes => .ok (.complete bytes)
      | none => .error (.invalidByteConstant word)
    | letters =>
      match bracketed? letters with
      | some (encoding, payload) =>
        (decodeNamed encoding payload).map .complete
      | none =>
        if (decoder? word).isSome then .ok (.encoded word)
        else .error (.invalidByteConstant word)

/-- Puts a fault at a column. -/
def located {α : Type} (column : Nat) (result : Except Fault α) : Reading α :=
  result.mapError fun fault => ⟨column, fault⟩

/-- The byte constant at the head of the tokens and the tokens behind it. -/
def readConstant (missing : At Fault) :
    List Token → Reading (Bytes × List Token)
  | [] => .error missing
  | token :: rest => do
    match ← located token.column (constantForm token) with
    | .complete bytes => return (bytes, rest)
    | .encoded encoding =>
      match rest with
      | [] => .error missing
      | payload :: rest =>
        let bytes ← located payload.column (decodeNamed encoding payload.text)
        return (bytes, rest)

private theorem length_lt_of_readConstant {missing : At Fault}
    {tokens rest : List Token} {bytes : Bytes}
    (read : readConstant missing tokens = .ok (bytes, rest)) :
    rest.length < tokens.length := by
  cases tokens with
  | nil => simp [readConstant] at read
  | cons token tail =>
    simp only [readConstant, bind, Except.bind] at read
    split at read
    · simp at read
    · split at read
      · simp only [pure, Except.pure, Except.ok.injEq, Prod.mk.injEq] at read
        simp [← read.2]
      · split at read
        · simp at read
        · split at read
          · simp at read
          · simp only [pure, Except.pure, Except.ok.injEq,
              Prod.mk.injEq] at read
            simp only [← read.2, List.length_cons]
            omega

/-- Byte constants up to the end of the line. -/
def readConstants (missing : At Fault) (tokens : List Token) :
    Reading (List Bytes) :=
  match tokens with
  | [] => .ok []
  | token :: rest =>
    match _read : readConstant missing (token :: rest) with
    | .error fault => .error fault
    | .ok (bytes, rest) => do
      let more ← readConstants missing rest
      return bytes :: more
termination_by tokens.length
decreasing_by exact length_lt_of_readConstant _read

/-- The token at the head, which has to exist. -/
def readToken (missing : At Fault) :
    List Token → Reading (Token × List Token)
  | [] => .error missing
  | token :: rest => .ok (token, rest)

/-- One immediate and the tokens behind it. -/
def readOperand (operation : At String) (missing : At Fault)
    (kind : ImmediateKind) (tokens : List Token) :
    Reading (Operand (At String) × List Token) := do
  match kind with
  | .u8 =>
    let (token, rest) ← readToken missing tokens
    return (.byte (← readU8 token), rest)
  | .i8 =>
    let (token, rest) ← readToken missing tokens
    return (.byte (← readI8 token), rest)
  | .field group =>
    let (token, rest) ← readToken missing tokens
    return (.byte (← readField group token), rest)
  | .varuint =>
    let (token, rest) ← readToken missing tokens
    return (.int (← readUint token), rest)
  | .bytes =>
    let (bytes, rest) ← readConstant missing tokens
    return (.bytes bytes, rest)
  | .label =>
    let (token, rest) ← readToken missing tokens
    return (.branch (← readLabel token), rest)
  | .labels =>
    if tokens.length ≤ 255 then
      return (.branches (← tokens.mapM readLabel), [])
    else .error ⟨operation.column, .outOfRange tokens.length 255⟩
  | .intBlock => return (.ints (← tokens.mapM readUint), [])
  | .byteBlock => return (.strings (← readConstants missing tokens), [])

/-- The immediates of the given kinds and the tokens behind them. -/
def readOperands (operation : At String) (missing : At Fault) :
    List ImmediateKind → List Token →
      Reading (List (Operand (At String)) × List Token)
  | [], tokens => .ok ([], tokens)
  | kind :: kinds, tokens => do
    let (operand, rest) ← readOperand operation missing kind tokens
    let (operands, rest) ← readOperands operation missing kinds rest
    return (operand :: operands, rest)

/-- Refuses tokens behind the last immediate. -/
def finished {α : Type} (surplus : At Fault) : α × List Token → Reading α
  | (value, []) => .ok value
  | (_, _ :: _) => .error surplus

/-- The instruction of an operation from the table. -/
def readOpcode (opcode : Opcode) (operation : At String)
    (tokens : List Token) : Reading (Instruction (At String)) := do
  let fault := countFault operation opcode.immediates.length
  let operands ←
    finished fault (← readOperands operation fault opcode.immediates tokens)
  return { code := opcode.code, operands := operands }

/-- The only token of an operation with one immediate. -/
def readSingle (operation : At String) (tokens : List Token) :
    Reading Token := do
  let fault := countFault operation 1
  finished fault (← readToken fault tokens)

/-- Pushes constant bytes. -/
def pushBytes (bytes : Bytes) : Instruction (At String) :=
  { code := Opcode.pushBytesCode, operands := [.bytes bytes] }

/-- Pushes a constant integer. -/
def pushInt (value : Nat) : Instruction (At String) :=
  { code := Opcode.pushIntCode, operands := [.int value] }

/-- The public key of an address. -/
def readAddress (token : Token) : Reading Bytes :=
  match decodeAddress? token.text.toList with
  | some publicKey => .ok publicKey
  | none => .error ⟨token.column, .invalidAddress token.text⟩

/-- The selector of a method whose signature is a literal. -/
def readMethod (token : Token) : Reading Bytes :=
  match token.kind with
  | .literal signature => .ok (methodSelector signature)
  | .word text => .error ⟨token.column, .invalidByteConstant text⟩

/-- The instruction of a line.  `int`, `byte`, `addr` and `method` push a
constant; every other operation is looked up in the table. -/
def readInstruction (operation : At String) (tokens : List Token) :
    Reading (Instruction (At String)) := do
  match operation.value with
  | "int" => return pushInt (← readUint (← readSingle operation tokens))
  | "byte" =>
    let fault := countFault operation 1
    return pushBytes (← finished fault (← readConstant fault tokens))
  | "addr" => return pushBytes (← readAddress (← readSingle operation tokens))
  | "method" =>
    return pushBytes (← readMethod (← readSingle operation tokens))
  | name =>
    match Opcode.ofName? name with
    | some opcode => readOpcode opcode operation tokens
    | none => .error ⟨operation.column, .unknownOpcode name⟩

end TealTools.Assembly

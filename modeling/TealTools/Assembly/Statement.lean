import TealTools.Assembly.Operands

/-!
# Statements

A source line may define a label, and may hold a directive or an instruction
behind it.  Reading a statement does not depend on the lines around it.
-/

namespace TealTools.Assembly

/-- The latest version of the instruction set. -/
def maxVersion : Nat := 11

/-- What a line holds behind its label. -/
inductive Body where
  | empty
  /-- A directive at a column, and the version it selects. -/
  | directive (column : Nat) (version : Reading Nat)
  | instruction (parsed : Reading (Instruction (At String)))
  /-- A literal where an operation should stand. -/
  | misplaced (fault : At Fault)

structure Statement where
  /-- The name in front of a colon. -/
  label : Option (At String)
  body : Body

/-- The word without a colon at its end. -/
def labelName? (word : String) : Option String :=
  match word.toList.reverse with
  | ':' :: name => some (String.ofList name.reverse)
  | _ => none

/-- The version that a directive selects. -/
def readDirective (directive : At String) (tokens : List Token) :
    Reading Nat :=
  let unknown : At Fault :=
    ⟨directive.column, .unknownPragma
      (" ".intercalate (directive.value :: tokens.map Token.text))⟩
  if directive.value ≠ "#pragma" then .error unknown
  else
    match tokens with
    | [kind, value] =>
      if kind.word? ≠ some "version" then
        .error ⟨kind.column, .unknownPragma kind.text⟩
      else
        match Text.nat? 10 UInt64.size value.text.toList with
        | some version =>
          if 1 ≤ version ∧ version ≤ maxVersion then .ok version
          else .error ⟨value.column, .unsupportedVersion value.text⟩
        | none => .error ⟨value.column, .unsupportedVersion value.text⟩
    | _ => .error unknown

/-- What tokens say that stand behind an optional label. -/
def readBody : List Token → Body
  | [] => .empty
  | token :: rest =>
    match token.kind with
    | .literal _ => .misplaced ⟨token.column, .unknownOpcode token.text⟩
    | .word word =>
      if word.toList.head? = some '#' then
        .directive token.column (readDirective ⟨token.column, word⟩ rest)
      else .instruction (readInstruction ⟨token.column, word⟩ rest)

/-- The statement of a tokenized line. -/
def readStatement : List Token → Statement
  | [] => { label := none, body := .empty }
  | token :: rest =>
    match token.word?.bind labelName? with
    | some name =>
      { label := some ⟨token.column, name⟩, body := readBody rest }
    | none => { label := none, body := readBody (token :: rest) }

/-- The statement of a line, or the fault of a literal that does not close. -/
def readLine (line : List Char) : Reading Statement :=
  (Token.scan line).map readStatement

end TealTools.Assembly

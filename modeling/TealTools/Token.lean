import TealTools.Assembly.Fault
import TealTools.Text.Blank
import TealTools.Text.Numeral
import TealTools.Text.Utf8

/-!
# Tokens of a source line

A line is a sequence of words and string literals between separators.  Two
slashes outside a literal begin a comment.  A blank character that is no
separator ends a word, and where it stands in place of a token it ends the
line.
-/

namespace TealTools

inductive TokenKind where
  | word (text : String)
  | literal (bytes : Bytes)
  deriving DecidableEq, Repr

structure Token where
  kind : TokenKind
  column : Nat
  deriving DecidableEq, Repr

namespace Token

def word? (token : Token) : Option String :=
  match token.kind with
  | .word text => some text
  | .literal _ => none

/-- The text of a word, or what the bytes of a literal spell. -/
def text (token : Token) : String :=
  match token.kind with
  | .word text => text
  | .literal bytes => String.ofList (Text.ofUtf8 bytes)

/-- Does a comment begin here? -/
def beginsComment : List Char → Bool
  | '/' :: '/' :: _ => true
  | _ => false

/-- Splits off the characters up to a blank or a comment. -/
def splitWord : List Char → List Char × List Char
  | [] => ([], [])
  | c :: rest =>
    if Text.isBlank c || beginsComment (c :: rest) then ([], c :: rest)
    else
      let (word, after) := splitWord rest
      (c :: word, after)

/-- The byte that a letter stands for behind a backslash. -/
def escaped? (c : Char) : Option UInt8 :=
  if c = '\\' then some 0x5C
  else if c = '"' then some 0x22
  else if c = 'r' then some 0x0D
  else if c = 'n' then some 0x0A
  else if c = 't' then some 0x09
  else none

/-- The byte that two hexadecimal digits stand for. -/
def hexByte? (high low : Char) : Option UInt8 := do
  let high ← Text.digitValue? 16 high
  let low ← Text.digitValue? 16 low
  return UInt8.ofNat (high * 16 + low)

/-- What was read of a literal behind its opening quote: the characters, the
bytes they spell, and the text from the first character that is no part. -/
structure LiteralBody where
  span : List Char
  bytes : Bytes
  rest : List Char

def LiteralBody.cons (span : List Char) (bytes : Bytes) (body : LiteralBody) :
    LiteralBody :=
  { body with span := span ++ body.span, bytes := bytes ++ body.bytes }

/-- Reads plain characters and escapes as far as they go. -/
def splitLiteral : List Char → LiteralBody
  | [] => { span := [], bytes := [], rest := [] }
  | '"' :: rest => { span := [], bytes := [], rest := '"' :: rest }
  | '\\' :: 'x' :: high :: low :: rest =>
    match hexByte? high low with
    | some byte => (splitLiteral rest).cons ['\\', 'x', high, low] [byte]
    | none =>
      { span := [], bytes := [], rest := '\\' :: 'x' :: high :: low :: rest }
  | '\\' :: c :: rest =>
    match escaped? c with
    | some byte => (splitLiteral rest).cons ['\\', c] [byte]
    | none => { span := [], bytes := [], rest := '\\' :: c :: rest }
  | ['\\'] => { span := [], bytes := [], rest := ['\\'] }
  | c :: rest => (splitLiteral rest).cons [c] (String.utf8EncodeChar c)

/-- Why a literal ends before its closing quote, given the text that is left
there. -/
def literalFault : List Char → Assembly.Fault
  | '\\' :: 'x' :: rest =>
    .invalidByteConstant (String.ofList ('\\' :: 'x' :: rest.take 2))
  | '\\' :: c :: _ => .invalidByteConstant (String.ofList ['\\', c])
  | _ => .unterminatedString

/-- The column behind characters that begin at the given one. -/
def columnAfter (column : Nat) (span : List Char) : Nat :=
  span.foldl (fun column c => if c = '\n' then 1 else column + 1) column

theorem length_splitWord (input : List Char) :
    (splitWord input).1.length + (splitWord input).2.length =
      input.length := by
  induction input with
  | nil => rfl
  | cons c rest induction =>
    unfold splitWord
    split
    · simp
    · simp only [List.length_cons]
      omega

theorem length_splitLiteral (input : List Char) :
    (splitLiteral input).span.length + (splitLiteral input).rest.length =
      input.length := by
  fun_induction splitLiteral input <;>
    simp_all [LiteralBody.cons] <;> omega

/-- What stands next in a text: nothing, a literal that does not close, or a
token with the column and the text behind it. -/
inductive Step where
  | done
  | stuck (fault : At Assembly.Fault)
  | found (token : Token) (column : Nat) (rest : List Char)

/-- Reads the token at the head of a text without leading separators. -/
def stepAt (column : Nat) : List Char → Step
  | [] => .done
  | c :: rest =>
    if beginsComment (c :: rest) then .done
    else if c = '"' then
      let body := splitLiteral rest
      match body.rest with
      | '"' :: after =>
        .found ⟨.literal body.bytes, column⟩
          (columnAfter column ('"' :: body.span ++ ['"'])) after
      | stuck => .stuck ⟨column, literalFault stuck⟩
    else
      let (word, after) := splitWord (c :: rest)
      if word.isEmpty then .done
      else
        .found ⟨.word (String.ofList word), column⟩ (columnAfter column word)
          after

/-- Skips separators and reads the token behind them. -/
def step (column : Nat) (input : List Char) : Step :=
  stepAt (columnAfter column (input.takeWhile Text.isSeparator))
    (input.dropWhile Text.isSeparator)

private theorem length_lt_of_stepAt {column next : Nat} {input rest : List Char}
    {token : Token} (found : stepAt column input = .found token next rest) :
    rest.length < input.length := by
  cases input with
  | nil => simp [stepAt] at found
  | cons c tail =>
    have bodyLength := length_splitLiteral tail
    have wordLength := length_splitWord (c :: tail)
    simp only [stepAt] at found
    split at found
    · simp at found
    · split at found
      · split at found
        · rename_i closed
          simp only [Step.found.injEq] at found
          rw [← found.2.2]
          simp only [closed, List.length_cons] at bodyLength ⊢
          omega
        · simp at found
      · split at found
        · simp at found
        · rename_i notEmpty
          have positive : 0 < (splitWord (c :: tail)).1.length :=
            List.length_pos_iff.mpr (by simpa using notEmpty)
          simp only [Step.found.injEq] at found
          rw [← found.2.2]
          omega

theorem length_lt_of_step {column next : Nat} {input rest : List Char}
    {token : Token} (found : step column input = .found token next rest) :
    rest.length < input.length :=
  Nat.lt_of_lt_of_le (length_lt_of_stepAt found)
    (List.dropWhile_suffix Text.isSeparator).length_le

/-- The tokens of a text that begins at the given column. -/
def scanFrom (column : Nat) (input : List Char) :
    Except (At Assembly.Fault) (List Token) :=
  match _found : step column input with
  | .done => .ok []
  | .stuck fault => .error fault
  | .found token next rest => do
    let tokens ← scanFrom next rest
    return token :: tokens
termination_by input.length
decreasing_by exact length_lt_of_step _found

/-- The tokens of a line, or the fault of the first literal that does not
close. -/
def scan (line : List Char) : Except (At Assembly.Fault) (List Token) :=
  scanFrom 1 line

end Token

end TealTools

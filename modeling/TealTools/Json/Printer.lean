import TealTools.Json.Basic

/-!
# Writing JSON

Documents are written without white space.  Only the quote, the backslash and
control characters are escaped.
-/

namespace TealTools.Json

private def hexDigit (value : Nat) : Char :=
  if value < 10 then Char.ofNat (value + '0'.toNat)
  else Char.ofNat (value - 10 + 'a'.toNat)

/-- A character inside a string. -/
def writeChar (c : Char) : List Char :=
  if c = '"' then ['\\', '"']
  else if c = '\\' then ['\\', '\\']
  else if c = '\x08' then ['\\', 'b']
  else if c = '\x0C' then ['\\', 'f']
  else if c = '\n' then ['\\', 'n']
  else if c = '\r' then ['\\', 'r']
  else if c = '\t' then ['\\', 't']
  else if c.toNat < 0x20 then
    ['\\', 'u', '0', '0', hexDigit (c.toNat / 16), hexDigit (c.toNat % 16)]
  else [c]

/-- A text between quotes. -/
def writeString (text : String) : List Char :=
  '"' :: text.toList.flatMap writeChar ++ ['"']

def writeInt : Int → List Char
  | .ofNat n => Nat.toDigits 10 n
  | .negSucc n => '-' :: Nat.toDigits 10 (n + 1)

/-- A number with a fraction or an exponent. -/
def writeDecimal (literal : DecimalLiteral) : List Char :=
  literal.text?.getD ['n', 'u', 'l', 'l']

/-- Puts a comma between parts. -/
def commas : List (List Char) → List Char
  | [] => []
  | [part] => part
  | part :: more => part ++ ',' :: commas more

mutual

def write : Json → List Char
  | null => ['n', 'u', 'l', 'l']
  | bool true => ['t', 'r', 'u', 'e']
  | bool false => ['f', 'a', 'l', 's', 'e']
  | int value => writeInt value
  | decimal literal => writeDecimal literal
  | string text => writeString (text.getD "")
  | array items => '[' :: commas (writeItems items) ++ [']']
  | object members => '\x7b' :: commas (writeMembers members) ++ ['\x7d']

def writeItems : List Json → List (List Char)
  | [] => []
  | item :: items => write item :: writeItems items

def writeMembers : List (Option String × Json) → List (List Char)
  | [] => []
  | (name, value) :: members =>
    (writeString (name.getD "") ++ ':' :: write value) :: writeMembers members

end

/-- The text of a document. -/
def render (json : Json) : String :=
  String.ofList (write json)

end TealTools.Json

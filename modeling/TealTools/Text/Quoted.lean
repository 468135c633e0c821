import TealTools.Text.Illegible
import TealTools.Text.Utf8

/-!
# Quoted text

Messages show a text between double quotes.  The quote, the backslash and the
common controls are escaped by a letter, and every other character without a
legible form by its code point.  In a path, bytes that belong to no character
are shown as they are.
-/

namespace TealTools.Text

/-- A character by its code point. -/
def codePoint (c : Char) : List Char :=
  ['\\', 'u', '\x7b'] ++ Nat.toDigits 16 c.toNat ++ ['\x7d']

/-- A character as it stands between the quotes. -/
def quotedChar (c : Char) : List Char :=
  if c = '"' then ['\\', '"']
  else if c = '\\' then ['\\', '\\']
  else if c = '\n' then ['\\', 'n']
  else if c = '\r' then ['\\', 'r']
  else if c = '\t' then ['\\', 't']
  else if c = '\x00' then ['\\', '0']
  else if isIllegible c then codePoint c
  else [c]

/-- The text between double quotes. -/
def quoted (text : String) : String :=
  "\"" ++ String.ofList (text.toList.flatMap quotedChar) ++ "\""

/-- A byte that belongs to no character. -/
def quotedByte (byte : UInt8) : List Char :=
  let digit (value : Nat) : Char :=
    if value < 10 then Char.ofNat (value + '0'.toNat)
    else Char.ofNat (value - 10 + 'A'.toNat)
  ['\\', 'x', digit (byte.toNat / 16), digit (byte.toNat % 16)]

/-- The bytes of a path as they stand between the quotes. -/
def quotedBytes (bytes : Bytes) : List Char :=
  match bytes with
  | [] => []
  | first :: rest =>
    let count := (readChar first rest).2
    let shown := match (readChar first rest).1 with
      | some c => quotedChar c
      | none => (first :: rest.take count).flatMap quotedByte
    shown ++ quotedBytes (rest.drop count)
termination_by bytes.length
decreasing_by
  simp only [List.length_drop, List.length_cons]
  omega

/-- The path between double quotes. -/
def quotedPath (path : Bytes) : String :=
  "\"" ++ String.ofList (quotedBytes path) ++ "\""

end TealTools.Text

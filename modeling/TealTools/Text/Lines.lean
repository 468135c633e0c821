import TealTools.Text.Split

/-!
# Lines of a text

A line ends at a line feed, and a carriage return right before that line feed
belongs to the line end.  Text after the last line feed is a line of its own
unless it is empty.  Editors count positions on a line in UTF-16 units.
-/

namespace TealTools.Text

/-- Drops one carriage return from the end. -/
def dropReturn : List Char → List Char
  | [] => []
  | [c] => if c = '\r' then [] else [c]
  | c :: rest => c :: dropReturn rest

/-- Takes the line ends off the pieces of a text. -/
def finishLines : List (List Char) → List (List Char)
  | [] => []
  | [last] => if last.isEmpty then [] else [last]
  | line :: more => dropReturn line :: finishLines more

/-- The lines of a text, without their line ends. -/
def lines (text : List Char) : List (List Char) :=
  finishLines (split '\n' text)

/-- The number of UTF-16 units of a character. -/
def unitCount (c : Char) : Nat :=
  if c.toNat < 0x10000 then 1 else 2

/-- The number of UTF-16 units of a text. -/
def utf16Length : List Char → Nat
  | [] => 0
  | c :: rest => unitCount c + utf16Length rest

end TealTools.Text

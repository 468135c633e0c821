import TealTools.Node.Punycode
import TealTools.Node.Replacement
import TealTools.Text.Composition
import TealTools.Text.Direction
import TealTools.Text.Joining

/-!
# Domain names

A domain name is a row of labels between dots.  Its characters are replaced
by those they vary, the result is composed, and each label is written in
ASCII.  Labels that could be mistaken for others are refused: those that start
with a mark, that hold a joiner where none belongs, or whose characters run in
directions that do not fit together.
-/

namespace TealTools.Node.Domain

/-- Characters that no domain name holds. -/
def isForbidden (c : Char) : Bool :=
  c.toNat ≤ 0x20 || c.toNat = 0x7F || "%#/:<>?@[\\]^|".toList.contains c

def isAscii (label : List Char) : Bool :=
  label.all fun c => c.toNat < 0x80

/-! ## Joiners -/

/-- Does a letter that joins behind come first, read away from the joiner? -/
def reaches (joins : Char → Bool) (text : List Char) : Bool :=
  (text.dropWhile Text.isTransparent).head?.any joins

/-- Are the joiners in place?  Each follows a sign that takes the vowel off a
consonant; one that keeps letters apart may also stand between two letters
that would join.  The first argument is the text in front, read backwards. -/
def joinersFit : List Char → List Char → Bool
  | _, [] => true
  | front, c :: rest =>
    (!Replacement.isJoiner c ||
      front.head?.any (fun last => Text.markClass last = Text.viramaClass) ||
      (c = '\u200C' && reaches Text.joinsBehind front &&
        reaches Text.joinsFront rest)) &&
      joinersFit (c :: front) rest

/-! ## Labels -/

/-- What every label beyond ASCII has to satisfy by itself. -/
def isWellFormed (label : List Char) : Bool :=
  !label.head?.any Text.isMark && joinersFit [] label

/-- The label that an ASCII form stands for.  The form has to be the one that
encoding the label gives, so nothing in the label may still be replaced. -/
def decodeLabel? (encoded : List Char) : Option (List Char) := do
  let label ← Punycode.decode? encoded
  let replaced ← label.mapM Replacement.replace?
  if Text.compose replaced.flatten = label ∧ !isAscii label ∧
      isWellFormed label then
    some label
  else none

/-- The mark of labels in their ASCII form. -/
def asciiMark : List Char := ['x', 'n', '-', '-']

/-- The longest ASCII form that is decoded. -/
def maxEncodedLength : Nat := 2000

/-- The longest label that is encoded. -/
def maxLength : Nat := 1000

/-- A label as it is read, from its replaced and composed form. -/
def label? (text : List Char) : Option (List Char) :=
  if asciiMark.isPrefixOf text then
    let encoded := text.drop asciiMark.length
    if encoded.length ≤ maxEncodedLength then decodeLabel? encoded else none
  else if isAscii text ∨ (text.length ≤ maxLength ∧ isWellFormed text) then
    some text
  else none

/-- A label in ASCII. -/
def asciiLabel (label : List Char) : List Char :=
  if isAscii label then label else asciiMark ++ Punycode.encode label

/-- Do the directions of each label fit together?  Only if some character runs
from the right can they fail to. -/
def isOrderly (labels : List (List Char)) : Bool :=
  let directions := labels.map (·.map Text.direction)
  !directions.any (·.any Text.Direction.isMixing) ||
    directions.all Text.Direction.isOrderly

/-- A domain name in ASCII. -/
def toAscii? (domain : List Char) : Option (List Char) := do
  let text := Text.compose (← domain.mapM Replacement.replace?).flatten
  if text.any isForbidden then none
  let labels ← (Text.split '.' text).mapM label?
  if isOrderly labels then
    some (['.'].intercalate (labels.map asciiLabel))
  else none

end TealTools.Node.Domain

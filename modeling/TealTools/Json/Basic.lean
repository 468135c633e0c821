import TealTools.Number.Shortest

/-!
# JSON documents

A document is kept as it is written: members of an object in order, with
repeated names, and numbers as literals.  A string is `none` if one of its
escapes is half of a surrogate pair without the other half; such a string
belongs to the grammar but spells no text.
-/

namespace TealTools

/-- A number with a fraction or an exponent, as it is written. -/
structure DecimalLiteral where
  negative : Bool
  whole : Nat
  /-- The digits behind the point. -/
  fraction : List Nat
  exponent : Int
  deriving DecidableEq, Repr

inductive Json where
  | null
  | bool (value : Bool)
  | int (value : Int)
  | decimal (literal : DecimalLiteral)
  | string (text : Option String)
  | array (items : List Json)
  | object (members : List (Option String × Json))
  deriving Repr, Inhabited

namespace Json

/-- A string that spells a text. -/
def str (text : String) : Json := string (some text)

/-- An object from names and values. -/
def obj (members : List (String × Json)) : Json :=
  object (members.map fun (name, value) => (some name, value))

def nat (value : Nat) : Json := int value

/-- A value, or null in its place. -/
def ofOption {α : Type} (encode : α → Json) : Option α → Json
  | none => null
  | some value => encode value

/-- A member for a value that is there. -/
def echo {α : Type} (name : String) (encode : α → Json) (value : Option α) :
    List (String × Json) :=
  value.toList.map fun value => (name, encode value)

/-- The value behind a name; the last of repeated ones. -/
def get? (json : Json) (name : String) : Option Json :=
  match json with
  | object members => members.reverse.lookup (some name)
  | _ => none

end Json

namespace DecimalLiteral

/-- The largest integer that a significand is collected in. -/
def significandLimit : Nat := UInt64.size

/-- Takes in digits while the significand stays below its limit. -/
def takeDigits : Nat → List Nat → Nat × List Nat
  | significand, [] => (significand, [])
  | significand, digit :: rest =>
    if significand * 10 + digit < significandLimit then
      takeDigits (significand * 10 + digit) rest
    else (significand, digit :: rest)

/-- The digits of a number, most significant first. -/
def digitsOf (n : Nat) : List Nat :=
  (Nat.toDigits 10 n).map fun c => c.toNat - '0'.toNat

/-- Scales by a power of ten, in steps of at most `10 ^ 308`. -/
def scaleDown : Nat → Binary64 → Nat → Option Binary64
  | 0, x, _ => some x
  | fuel + 1, x, exponent =>
    if x.significand = 0 then some x
    else do
      let step := min exponent 308
      let x ← x.div? (← Binary64.ofNat? (Nat.pow 10 step))
      if exponent ≤ 308 then some x else scaleDown fuel x (exponent - 308)

/-- A significand times a power of ten, each step rounded. -/
def scaled? (significand : Nat) (exponent : Int) : Option Binary64 := do
  let x ← Binary64.ofNat? significand
  if exponent < 0 then scaleDown 4 x (-exponent).toNat
  else if x.significand = 0 then some x
  else if exponent > 308 then none
  else x.mul? (← Binary64.ofNat? (Nat.pow 10 exponent.toNat))

/-- The number that a literal stands for, unless it is too large.  Digits
beyond the significand's limit only count by their place. -/
def toBinary64? (literal : DecimalLiteral) : Option Binary64 := do
  let (significand, left) := takeDigits 0 (digitsOf literal.whole)
  let (significand, dropped) := takeDigits significand literal.fraction
  let places : Int := literal.fraction.length - dropped.length
  let x ← scaled? significand (literal.exponent + left.length - places)
  return { x with negative := literal.negative }

/-- Numbers of up to sixteen digits before the point, and of up to four zeros
behind it, are written without a power of ten. -/
def layout : Binary64.DecimalLayout := { lowest := -5, highest := 15 }

/-- The number as it is written, unless it is too large. -/
def text? (literal : DecimalLiteral) : Option (List Char) :=
  literal.toBinary64?.map (Binary64.write layout)

end DecimalLiteral

end TealTools

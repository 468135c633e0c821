/-!
# Numerals

An integer is read from digits of a given radix behind an optional sign.
Nothing else may stand in the text, and the value must lie in the range asked
for.
-/

namespace TealTools.Text

/-- The value of a digit in the given radix; letters of both cases count from
ten. -/
def digitValue? (radix : Nat) (c : Char) : Option Nat :=
  let value :=
    if '0' ≤ c ∧ c ≤ '9' then c.toNat - '0'.toNat
    else if 'a' ≤ c ∧ c ≤ 'z' then c.toNat - 'a'.toNat + 10
    else if 'A' ≤ c ∧ c ≤ 'Z' then c.toNat - 'A'.toNat + 10
    else radix
  if value < radix then some value else none

/-- The value of a run of digits that continues one of the given value. -/
def digitsValue? (radix : Nat) : Nat → List Char → Option Nat
  | value, [] => some value
  | value, c :: rest => do
    digitsValue? radix (value * radix + (← digitValue? radix c)) rest

/-- The value of a non-empty run of digits. -/
def digits? (radix : Nat) : List Char → Option Nat
  | [] => none
  | c :: rest => digitsValue? radix 0 (c :: rest)

/-- A number below `bound`, behind an optional plus sign. -/
def nat? (radix bound : Nat) (text : List Char) : Option Nat := do
  let value ← match text with
    | '+' :: digits => digits? radix digits
    | digits => digits? radix digits
  if value < bound then some value else none

/-- An integer from `low` to `high`, behind an optional sign. -/
def int? (radix : Nat) (low high : Int) (text : List Char) : Option Int := do
  let value ← match text with
    | '+' :: digits => (digits? radix digits).map Int.ofNat
    | '-' :: digits => (digits? radix digits).map fun n => -(n : Int)
    | digits => (digits? radix digits).map Int.ofNat
  if low ≤ value ∧ value ≤ high then some value else none

end TealTools.Text

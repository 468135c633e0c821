import TealTools.Number.Binary64

/-!
# Shortest decimals

The decimal of a binary number has the fewest digits that read back as that
number, and of those it is the nearest.  Of two that are equally near, the one
with the even last digit is taken.
-/

namespace TealTools.Binary64

/-- The decimal `digits * 10 ^ exponent`. -/
structure Shortest where
  digits : Nat
  exponent : Int

/-- The same decimal without zeros at the end of its digits. -/
def Shortest.trim (decimal : Shortest) : Shortest :=
  if decimal.digits ≠ 0 ∧ decimal.digits % 10 = 0 then
    Shortest.trim ⟨decimal.digits / 10, decimal.exponent + 1⟩
  else decimal
termination_by decimal.digits

/-- A quotient over a power of ten. -/
def overTen (num den : Nat) (exponent : Int) : Nat × Nat :=
  if exponent ≥ 0 then (num, den * Nat.pow 10 exponent.toNat)
  else (num * Nat.pow 10 (-exponent).toNat, den)

/-- The number of decimal digits before the point, or minus the number of
zeros behind it. -/
def magnitude (num den : Nat) : Int :=
  let guess : Int :=
    (num.log2 : Int) * 30103 / 100000 - (den.log2 : Int) * 30103 / 100000
  let fits (p : Int) : Bool :=
    let (n, d) := overTen num den p
    n < d
  ((List.range 8).map fun (i : Nat) => guess - 3 + i).find? fits |>.getD guess

/-- Does the decimal round to the positive number?  The ends of the interval
belong to it if the significand is even. -/
def readsBack (x : Binary64) (decimal : Shortest) : Bool :=
  let (num, den) := overTen decimal.digits 1 (-decimal.exponent)
  -- The interval in quarters of the unit of the significand.
  let low :=
    if x.significand = Nat.pow 2 (precision - 1) ∧ x.exponent > minExponent then
      4 * x.significand - 1
    else 4 * x.significand - 2
  let high := 4 * x.significand + 2
  let (n, d) := scale num den (x.exponent - 2)
  if x.significand % 2 = 0 then low * d ≤ n && n ≤ high * d
  else low * d < n && n < high * d

/-- The neighbours on a grid, nearer one first.  Of equally near ones the even
one comes first. -/
def neighbours (x : Binary64) (exponent : Int) : List Shortest :=
  let (num, den) := x.ratio
  let (n, d) := overTen num den exponent
  let below : Shortest := ⟨n / d, exponent⟩
  let above : Shortest := ⟨n / d + 1, exponent⟩
  if 2 * (n % d) < d ∨ (2 * (n % d) = d ∧ (n / d) % 2 = 0) then
    [below, above]
  else [above, below]

/-- The shortest decimal of the magnitude. -/
def shortest (x : Binary64) : Shortest :=
  let (num, den) := x.ratio
  let top := magnitude num den
  let candidates := (List.range 17).flatMap fun (i : Nat) =>
    neighbours x (top - 1 - i)
  if x.significand = 0 then ⟨0, 0⟩
  else ((candidates.find? (readsBack x)).getD ⟨0, 0⟩).trim

/-! ## Layout -/

/-- The places of the first digit, counted from the point, for which a number
is written without a power of ten. -/
structure DecimalLayout where
  lowest : Int
  highest : Int

/-- The digits without a power of ten, and always with a point. -/
def positional (decimal : Shortest) : List Char :=
  let digits := Nat.toDigits 10 decimal.digits
  if decimal.exponent ≥ 0 then
    digits ++ List.replicate decimal.exponent.toNat '0' ++ ['.', '0']
  else
    let places := (-decimal.exponent).toNat
    let padded := List.replicate (places + 1 - digits.length) '0' ++ digits
    padded.take (padded.length - places) ++
      '.' :: padded.drop (padded.length - places)

/-- One digit before the point, and a power of ten with its sign.  A single
digit has no point. -/
def scientific (decimal : Shortest) : List Char :=
  let digits := Nat.toDigits 10 decimal.digits
  let power := decimal.exponent + digits.length - 1
  let fraction := match digits.drop 1 with
    | [] => []
    | more => '.' :: more
  digits.take 1 ++ fraction ++
    ['e', if power < 0 then '-' else '+'] ++ Nat.toDigits 10 power.natAbs

/-- The number in a layout. -/
def write (layout : DecimalLayout) (x : Binary64) : List Char :=
  let decimal := x.shortest
  let place := decimal.exponent + (Nat.toDigits 10 decimal.digits).length - 1
  let sign := if x.negative then ['-'] else []
  sign ++
    if layout.lowest ≤ place ∧ place ≤ layout.highest then positional decimal
    else scientific decimal

end TealTools.Binary64

import TealTools.Text.Utf8

/-!
# Domain labels in ASCII

The Bootstring encoding that domain names use: the ASCII characters of a
label, and behind a hyphen the other ones as differences of code points and
places, written in a variable-length base of 36 digits.
-/

namespace TealTools.Node.Punycode

def digitChar (value : Nat) : Char :=
  if value < 26 then Char.ofNat (value + 'a'.toNat)
  else Char.ofNat (value - 26 + '0'.toNat)

def digitValue? (c : Char) : Option Nat :=
  if 'a' ≤ c ∧ c ≤ 'z' then some (c.toNat - 'a'.toNat)
  else if 'A' ≤ c ∧ c ≤ 'Z' then some (c.toNat - 'A'.toNat)
  else if '0' ≤ c ∧ c ≤ '9' then some (c.toNat - '0'.toNat + 26)
  else none

/-- The weight limit of the digit with the given position. -/
def threshold (position bias : Nat) : Nat :=
  if position ≤ bias then 1
  else min (position - bias) 26

/-- Divides a difference until it is small. -/
def shrink (delta position : Nat) : Nat × Nat :=
  if delta > 455 then shrink (delta / 35) (position + 36)
  else (delta, position)
termination_by delta

/-- The bias behind a difference. -/
def adapt (delta count : Nat) (first : Bool) : Nat :=
  let scaled := if first then delta / 700 else delta / 2
  let (left, position) := shrink (scaled + scaled / count) 0
  position + 36 * left / (left + 38)

/-- The digits of a difference. -/
def encodeDelta (bias : Nat) (position value : Nat) : List Char :=
  let limit := threshold position bias
  if value < limit then [digitChar value]
  else
    digitChar (limit + (value - limit) % (36 - limit)) ::
      encodeDelta bias (position + 36) ((value - limit) / (36 - limit))
termination_by value
decreasing_by
  have positive : 1 ≤ threshold position bias := by
    unfold threshold
    split <;> omega
  have small : (value - threshold position bias) /
      (36 - threshold position bias) ≤ value - threshold position bias :=
    Nat.div_le_self _ _
  omega

/-- What an encoder carries from character to character. -/
structure Encoder where
  delta : Nat
  bias : Nat
  done : Nat
  out : List Char

/-- Takes in one character of the label while the given code is encoded. -/
def Encoder.take (basic code : Nat) (encoder : Encoder) (c : Char) :
    Encoder :=
  if c.toNat < code then { encoder with delta := encoder.delta + 1 }
  else if c.toNat = code then
    { delta := 0
      bias := adapt encoder.delta (encoder.done + 1) (encoder.done = basic)
      done := encoder.done + 1
      out := encoder.out ++ encodeDelta encoder.bias 36 encoder.delta }
  else encoder

/-- Encodes the codes of a label in increasing order. -/
def encodeCodes (label : List Char) (basic : Nat) :
    Nat → Encoder → List Nat → Encoder
  | _, encoder, [] => encoder
  | previous, encoder, code :: codes =>
    let delta := encoder.delta + (code - previous) * (encoder.done + 1)
    let after :=
      label.foldl (Encoder.take basic code) { encoder with delta }
    encodeCodes label basic (code + 1) { after with delta := after.delta + 1 }
      codes

/-- A label in ASCII. -/
def encode (label : List Char) : List Char :=
  let basic := label.filter fun c => c.toNat < 0x80
  let codes :=
    ((label.map Char.toNat).filter (· ≥ 0x80)).eraseDups.mergeSort
  let start := if basic.isEmpty then [] else basic ++ ['-']
  (encodeCodes label basic.length 0x80
    { delta := 0, bias := 72, done := basic.length, out := start } codes).out

/-- The difference at the head of the digits and the digits behind it. -/
def decodeDelta (bias : Nat) : Nat → Nat → Nat → List Char →
    Option (Nat × List Char)
  | _, _, _, [] => none
  | position, weight, value, c :: rest => do
    let digit ← digitValue? c
    let value := value + digit * weight
    let limit := threshold position bias
    if digit < limit then some (value, rest)
    else decodeDelta bias (position + 36) (weight * (36 - limit)) value rest

private theorem length_lt_of_decodeDelta
    {bias position weight value delta : Nat}
    {digits rest : List Char}
    (read : decodeDelta bias position weight value digits =
      some (delta, rest)) : rest.length < digits.length := by
  induction digits generalizing position weight value with
  | nil => simp [decodeDelta] at read
  | cons c tail induction =>
    unfold decodeDelta at read
    cases digit : digitValue? c with
    | none => simp [digit] at read
    | some d =>
      simp only [digit, Option.bind_eq_bind, Option.bind_some] at read
      split at read
      · simp only [Option.some.injEq, Prod.mk.injEq] at read
        simp [← read.2]
      · have shorter := induction read
        simp only [List.length_cons]
        omega

/-- Inserts the characters that digits describe. -/
def decodeDigits (code place bias : Nat) (label : List Char)
    (digits : List Char) : Option (List Char) :=
  match digits with
  | [] => some label
  | c :: more =>
    match _read : decodeDelta bias 36 1 0 (c :: more) with
    | none => none
    | some (delta, rest) =>
      let count := label.length + 1
      let place := place + delta
      let code := code + place / count
      if code ≥ 0x110000 ∨ (0xD800 ≤ code ∧ code ≤ 0xDFFF) then none
      else
        let here := place % count
        decodeDigits code (here + 1) (adapt delta count (label.all fun c =>
            c.toNat < 0x80))
          (label.take here ++ Char.ofNat code :: label.drop here) rest
termination_by digits.length
decreasing_by exact length_lt_of_decodeDelta _read

/-- The label that an ASCII text stands for.  A hyphen has characters in front
of it. -/
def decode? (text : List Char) : Option (List Char) :=
  if text.any fun c => c.toNat ≥ 0x80 then none
  else
    let tail := (text.reverse.takeWhile (· ≠ '-')).reverse
    if text.length ≤ tail.length + 1 then decodeDigits 0x80 0 72 [] text
    else
      decodeDigits 0x80 0 72 (text.take (text.length - tail.length - 1)) tail

end TealTools.Node.Punycode

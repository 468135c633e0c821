import TealTools.Text.Utf8

/-!
# Base32

Each character carries five bits, most significant first.  Padding at the end
is optional, and bits that do not fill a byte are dropped.
-/

namespace TealTools.Codec.Base32

/-- The value of a character of the alphabet. -/
def value? (c : Char) : Option UInt32 :=
  if 'A' ≤ c ∧ c ≤ 'Z' then some (c.val - 'A'.val)
  else if '2' ≤ c ∧ c ≤ '7' then some (c.val - '2'.val + 26)
  else none

/-- Bits read but not yet written: the low `bits` bits of `buffer`. -/
structure Pending where
  buffer : UInt32
  bits : Nat

/-- Takes in five bits, and gives out a byte as soon as eight are pending. -/
def Pending.push (pending : Pending) (value : UInt32) :
    Option UInt8 × Pending :=
  let buffer := pending.buffer <<< 5 ||| value
  let bits := pending.bits + 5
  if bits ≥ 8 then
    let left := bits - 8
    (some (buffer >>> UInt32.ofNat left).toUInt8,
      { buffer := buffer &&& (1 <<< UInt32.ofNat left - 1), bits := left })
  else (none, { buffer := buffer, bits := bits })

/-- The bytes that characters spell after the pending bits. -/
def decodeFrom? : Pending → List Char → Option Bytes
  | _, [] => some []
  | pending, c :: rest => do
    let (byte, pending) := pending.push (← value? c)
    return byte.toList ++ (← decodeFrom? pending rest)

/-- The text without the padding at its end. -/
def dropPadding (text : List Char) : List Char :=
  (text.reverse.dropWhile (· = '=')).reverse

/-- The bytes that a text spells. -/
def decode? (text : List Char) : Option Bytes :=
  decodeFrom? { buffer := 0, bits := 0 } (dropPadding text)

end TealTools.Codec.Base32

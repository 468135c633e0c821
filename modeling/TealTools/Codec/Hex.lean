import TealTools.Text.Numeral
import TealTools.Text.Utf8

/-!
# Hexadecimal bytes

Two digits of either case stand for one byte.  Each pair is read as a numeral
of its own, so a plus sign may take the place of its first digit.
-/

namespace TealTools.Codec.Hex

/-- The bytes that a text spells. -/
def decode? : List Char → Option Bytes
  | [] => some []
  | [_] => none
  | high :: low :: rest => do
    let byte ← Text.nat? 16 0x100 [high, low]
    return UInt8.ofNat byte :: (← decode? rest)

/-- The lower-case digit of a value below sixteen. -/
def digit (value : Nat) : Char :=
  if value < 10 then Char.ofNat (value + '0'.toNat)
  else Char.ofNat (value - 10 + 'a'.toNat)

/-- The two lower-case digits of a byte. -/
def encodeByte (byte : UInt8) : List Char :=
  [digit (byte.toNat / 16), digit (byte.toNat % 16)]

/-- Bytes as lower-case digits. -/
def encode (bytes : Bytes) : List Char :=
  bytes.flatMap encodeByte

end TealTools.Codec.Hex

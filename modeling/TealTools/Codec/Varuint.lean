import TealTools.Text.Utf8

/-!
# Variable-length integers

A number is written in groups of seven bits, the lowest group first.  Every
byte but the last has its top bit set.
-/

namespace TealTools.Codec

/-- Appends a number to bytes already written. -/
def putVaruint (out : Bytes) (value : Nat) : Bytes :=
  if value < 0x80 then out ++ [UInt8.ofNat value]
  else putVaruint (out ++ [UInt8.ofNat (value % 0x80 + 0x80)]) (value / 0x80)
termination_by value

/-- The bytes of a number. -/
def varuint (value : Nat) : Bytes :=
  putVaruint [] value

end TealTools.Codec

import TealTools.Text.Utf8

/-!
# Base64

The standard alphabet with padding.  Reading accepts canonical text only: the
padding fills the last group of four, and bits that no byte takes are zero.
-/

namespace TealTools.Codec.Base64

/-- The value of a character of the alphabet. -/
def value? (c : Char) : Option Nat :=
  if 'A' ≤ c ∧ c ≤ 'Z' then some (c.toNat - 'A'.toNat)
  else if 'a' ≤ c ∧ c ≤ 'z' then some (c.toNat - 'a'.toNat + 26)
  else if '0' ≤ c ∧ c ≤ '9' then some (c.toNat - '0'.toNat + 52)
  else if c = '+' then some 62
  else if c = '/' then some 63
  else none

/-- The character of a value below 64. -/
def char (value : Nat) : Char :=
  if value < 26 then Char.ofNat (value + 'A'.toNat)
  else if value < 52 then Char.ofNat (value - 26 + 'a'.toNat)
  else if value < 62 then Char.ofNat (value - 52 + '0'.toNat)
  else if value = 62 then '+'
  else '/'

/-- The bytes that a text spells. -/
def decode? : List Char → Option Bytes
  | [] => some []
  | [a, b, '=', '='] => do
    let bits := (← value? a) * 64 + (← value? b)
    if bits % 16 = 0 then some [UInt8.ofNat (bits / 16)] else none
  | [a, b, c, '='] => do
    let bits := ((← value? a) * 64 + (← value? b)) * 64 + (← value? c)
    if bits % 4 = 0 then
      some [UInt8.ofNat (bits / 1024), UInt8.ofNat (bits / 4)]
    else none
  | a :: b :: c :: d :: rest => do
    let bits := (((← value? a) * 64 + (← value? b)) * 64 + (← value? c)) * 64
      + (← value? d)
    return UInt8.ofNat (bits / 65536) :: UInt8.ofNat (bits / 256) ::
      UInt8.ofNat bits :: (← decode? rest)
  | _ => none

/-- The text of a byte string. -/
def encode : Bytes → List Char
  | [] => []
  | [x] =>
    [char (x.toNat / 4), char (x.toNat % 4 * 16), '=', '=']
  | [x, y] =>
    [char (x.toNat / 4), char (x.toNat % 4 * 16 + y.toNat / 16),
      char (y.toNat % 16 * 4), '=']
  | x :: y :: z :: rest =>
    char (x.toNat / 4) :: char (x.toNat % 4 * 16 + y.toNat / 16) ::
      char (y.toNat % 16 * 4 + z.toNat / 64) :: char (z.toNat % 64) ::
      encode rest

end TealTools.Codec.Base64

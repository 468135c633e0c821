import TealTools.Codec.Base32
import TealTools.Codec.Sha512t256

/-!
# Addresses and method selectors

An address is the base32 text of a public key followed by the last four bytes
of the key's hash.  A method is selected by the first four bytes of the hash
of its signature.
-/

namespace TealTools

/-- The number of bytes of an address text. -/
def addressLength : Nat := 58

/-- The number of bytes of a public key. -/
def publicKeyLength : Nat := 32

/-- The checksum that an address carries for a public key. -/
def addressChecksum (publicKey : Bytes) : Bytes :=
  (Codec.Sha512t256.digest publicKey).drop 28

/-- The public key of an address whose checksum holds. -/
def decodeAddress? (text : List Char) : Option Bytes := do
  if (Text.utf8 text).length ≠ addressLength then none
  let decoded ← Codec.Base32.decode? text
  if decoded.length < publicKeyLength then none
  let publicKey := decoded.take publicKeyLength
  if decoded.drop publicKeyLength = addressChecksum publicKey then
    some publicKey
  else none

/-- Selects the method of the given signature. -/
def methodSelector (signature : Bytes) : Bytes :=
  (Codec.Sha512t256.digest signature).take 4

end TealTools

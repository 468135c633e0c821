import TealTools.Codec.Base64
import TealTools.Codec.Hex
import TealTools.Json.Decode

/-!
# Values of the virtual machine

A stack or scratch value is a byte string or an integer.  A recorded value
names its kind by a number, and carries bytes as base64 text.
-/

namespace TealTools

structure AvmValue where
  kind : UInt8
  bytes : Option String
  uint : Option UInt64
  deriving DecidableEq, Repr

namespace AvmValue

def bytesKind : UInt8 := 1

def uintKind : UInt8 := 2

def ofUint (value : UInt64) : AvmValue :=
  { kind := uintKind, bytes := none, uint := some value }

def ofBytes (value : Bytes) : AvmValue :=
  { kind := bytesKind
    bytes := some (String.ofList (Codec.Base64.encode value))
    uint := none }

/-- Every kind but that of byte strings counts as an integer. -/
def typeName (value : AvmValue) : String :=
  if value.kind = bytesKind then "bytes" else "uint64"

/-- Bytes in hexadecimal, and an integer in decimal.  Text that is no base64
is shown as it is. -/
def display (value : AvmValue) : String :=
  if value.kind ≠ bytesKind then toString (value.uint.getD 0)
  else
    let encoded := value.bytes.getD ""
    match Codec.Base64.decode? encoded.toList with
    | some bytes => "0x" ++ String.ofList (Codec.Hex.encode bytes)
    | none => encoded

def toJson (value : AvmValue) : Json :=
  .obj
    ([("type", .nat value.kind.toNat)] ++
      (value.bytes.toList.map fun text => ("bytes", .str text)) ++
      (value.uint.toList.map fun n => ("uint", .nat n.toNat)))

def decode? : Nat → Json → Option AvmValue
  | 0, _ => none
  | _ + 1, json => do
    match ← json.fields? ["type", "bytes", "uint"] with
    | [kind, bytes, uint] =>
      return { kind := ← kind.required Json.uint8?
               bytes := ← bytes.nullable Json.string?
               uint := ← uint.nullable Json.uint64? }
    | _ => none

end AvmValue

end TealTools

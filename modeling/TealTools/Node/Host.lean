import TealTools.IpAddress
import TealTools.Node.Domain
import TealTools.Text.Numeral

/-!
# Hosts of addresses

A host is an IPv6 address in brackets, an IPv4 address in any of its
spellings, or a domain name in ASCII.
-/

namespace TealTools.Node

/-- Why an address is refused. -/
inductive AddressError where
  | relative
  | emptyHost
  | invalidDomain
  | invalidPort
  | invalidIpv4
  | invalidIpv6
  | invalidCharacter
  deriving DecidableEq, Repr

def AddressError.message : AddressError → String
  | relative => "relative URL without a base"
  | emptyHost => "empty host"
  | invalidDomain => "invalid international domain name"
  | invalidPort => "invalid port number"
  | invalidIpv4 => "invalid IPv4 address"
  | invalidIpv6 => "invalid IPv6 address"
  | invalidCharacter => "invalid domain character"

namespace Host

/-- Replaces each percent sign with two digits by the byte that they spell. -/
def percentDecode : Bytes → Bytes
  | 0x25 :: high :: low :: rest =>
    match Text.digitsValue? 16 0
        [Char.ofNat high.toNat, Char.ofNat low.toNat] with
    | some value => UInt8.ofNat value :: percentDecode rest
    | none => 0x25 :: percentDecode (high :: low :: rest)
  | byte :: rest => byte :: percentDecode rest
  | [] => []
termination_by bytes => bytes.length

/-- A host of an address on the web. -/
def parse (text : List Char) : Except AddressError String :=
  match text with
  | '[' :: inner =>
    match inner.reverse with
    | ']' :: inner =>
      match IpAddress.ipv6? inner.reverse with
      | some groups => .ok (IpAddress.renderIpv6 groups)
      | none => .error .invalidIpv6
    | _ => .error .invalidIpv6
  | text =>
    match (Text.ofUtf8? (percentDecode (Text.utf8 text))).bind
        Domain.toAscii? with
    | none => .error .invalidDomain
    | some [] => .error .emptyHost
    | some domain =>
      if IpAddress.endsInNumber domain then
        match IpAddress.ipv4? domain with
        | some address => .ok (IpAddress.renderIpv4 address)
        | none => .error .invalidIpv4
      else .ok (String.ofList domain)

/-- Characters that no host holds, whatever the scheme. -/
def isForbiddenHost (c : Char) : Bool :=
  c = '\x00' || "\t\n\r #/:<>?@[\\]^|".toList.contains c

/-- Checks a host of another scheme, whose meaning is not known. -/
def checkOpaque (text : List Char) : Except AddressError Unit :=
  match text with
  | '[' :: _ => (parse text).map fun _ => ()
  | text =>
    if text.any isForbiddenHost then .error .invalidCharacter else .ok ()

end Host

end TealTools.Node

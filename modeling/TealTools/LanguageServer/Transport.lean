import TealTools.IpAddress
import TealTools.LanguageServer.SetupError

/-!
# Reaching the editor

The editor is dialled on a network if both a network and an address are
given.  Otherwise it is on the other side of standard input and output.
-/

namespace TealTools.LanguageServer

inductive Transport where
  | stdio
  | tcp
  | unix
  deriving DecidableEq, Repr

/-- Who can be reached: the ports where somebody listens, and the sockets
among the files. -/
structure Surroundings where
  listening : List (IpAddress × Nat)
  files : Files

namespace Transport

/-- A version 6 address, perhaps behind it a percent sign and the number of an
interface. -/
def scoped? (text : List Char) : Option (List Nat) := do
  match Text.split '%' text with
  | [address] => IpAddress.ipv6? address
  | [address, interface] =>
    let interface ← Text.digits? 10 interface
    if interface < UInt32.size then IpAddress.ipv6? address else none
  | _ => none

/-- A version 4 address; no part of it is a bare mark of hexadecimals. -/
def dotted? (text : List Char) : Option Nat :=
  if (Text.split '.' text).any fun part => part = ['0', 'x'] ∨ part = ['0', 'X']
  then none
  else IpAddress.ipv4? text

/-- The addresses of a host.  No name but that of the machine itself is
known. -/
def lookUp (host : List Char) : List IpAddress :=
  if host.map Char.toLower = "localhost".toList then [.loopback6, .loopback]
  else if host.getLast? = some '.' then []
  else
    match dotted? host, scoped? host with
    | some number, _ => [.v4 number]
    | none, some groups => [.v6 groups]
    | none, none => []

/-- A version 6 address in brackets, a colon and a port. -/
def bracketed? (address : List Char) : Option (IpAddress × Nat) := do
  match address with
  | '[' :: rest =>
    match (Text.split ']' rest) with
    | [inner, ':' :: port] =>
      let port ← Text.digits? 10 port
      let groups ← scoped? inner
      if port < UInt16.size then some (.v6 groups, port) else none
    | _ => none
  | _ => none

/-- Splits at the last colon. -/
def splitLast? (address : List Char) : Option (List Char × List Char) :=
  match (Text.split ':' address).reverse with
  | port :: part :: parts =>
    some ([':'].intercalate (part :: parts).reverse, port)
  | _ => none

/-- The addresses and the port that an address stands for. -/
def resolve (address : List Char) :
    Except ConnectError (List IpAddress × Nat) :=
  match bracketed? address with
  | some (ip, port) => .ok ([ip], port)
  | none =>
    match splitLast? address with
    | none => .error .invalidAddress
    | some (host, port) =>
      match Text.nat? 10 UInt16.size port with
      | none => .error .invalidAddress
      | some port =>
        if host.contains '\x00' then .error .invalidAddress
        else
          match lookUp host with
          | [] => .error .unknownHost
          | found => .ok (found, port)

/-- Connects to the first of the addresses where somebody listens, out of
those that are wanted. -/
def connect (around : Surroundings) (wanted : IpAddress → Bool)
    (address : List Char) : Except ConnectError Unit := do
  let (found, port) ← resolve address
  let found := found.filter wanted
  if found.isEmpty then .error .otherVersion
  else if found.any fun ip => around.listening.contains (ip, port) then .ok ()
  else .error .refused

/-- Connects to a socket. -/
def connectSocket (files : Files) (path : Bytes) :
    Except ConnectError Unit :=
  if path.contains 0 ∨ path.length > 107 then .error .invalidAddress
  else
    match files.locate path with
    | .error cause => .error (.file cause)
    | .ok place =>
      match files.get? place with
      | none => .error (.file .notFound)
      | some .directory => .error .refused
      | some entry =>
        if path.getLast? = some 0x2F then .error (.file .notDirectory)
        else if entry = .socket then .ok ()
        else .error .refused

/-- Dials the editor. -/
def dial (around : Surroundings) (network address : String) :
    Except SetupError Transport :=
  let dialled (transport : Transport) (result : Except ConnectError Unit) :
      Except SetupError Transport :=
    match result with
    | .ok () => .ok transport
    | .error cause => .error (.connect network address cause)
  match network with
  | "tcp" => dialled tcp (connect around (fun _ => true) address.toList)
  | "tcp4" => dialled tcp (connect around IpAddress.isV4 address.toList)
  | "tcp6" =>
    dialled tcp (connect around (fun ip => !ip.isV4) address.toList)
  | "unix" =>
    dialled unix (connectSocket around.files (Text.utf8 address.toList))
  | _ => .error (.unknownNetwork network)

/-- Chooses the way to the editor. -/
def select (around : Surroundings) (network address : String) :
    Except SetupError Transport :=
  if network.isEmpty ∨ address.isEmpty then .ok stdio
  else dial around network address

end Transport

end TealTools.LanguageServer

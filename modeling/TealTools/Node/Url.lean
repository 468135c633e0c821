import TealTools.Node.Host

/-!
# Addresses

An address for the web is brought to a normal form: the scheme and the host
in lower case, the default port left out, dot segments of the path resolved,
and characters that may not stand in it percent-encoded.  Of an address with
another scheme only that scheme is kept.
-/

namespace TealTools.Node

structure Url where
  scheme : String
  /-- User name and password up to the at sign, or nothing. -/
  credentials : String
  host : String
  port : Option Nat
  path : String
  query : Option String
  fragment : Option String
  deriving DecidableEq, Repr

inductive Address where
  | web (url : Url)
  | other (scheme : String)
  deriving DecidableEq, Repr

namespace Url

def render (url : Url) : String :=
  url.scheme ++ "://" ++ url.credentials ++ url.host ++
    (match url.port with
      | some port => s!":{port}"
      | none => "") ++
    url.path ++
    (match url.query with
      | some query => "?" ++ query
      | none => "") ++
    (match url.fragment with
      | some fragment => "#" ++ fragment
      | none => "")

/-! ## Percent encoding -/

private def upperHex (value : Nat) : Char :=
  if value < 10 then Char.ofNat (value + '0'.toNat)
  else Char.ofNat (value - 10 + 'A'.toNat)

def percentByte (byte : UInt8) : List Char :=
  ['%', upperHex (byte.toNat / 16), upperHex (byte.toNat % 16)]

/-- Encodes controls, characters beyond ASCII, and those of the set. -/
def percentEncode (set : List Char) (text : List Char) : List Char :=
  text.flatMap fun c =>
    if c.toNat < 0x20 ∨ c.toNat ≥ 0x7F ∨ c ∈ set then
      (String.utf8EncodeChar c).flatMap percentByte
    else [c]

def fragmentSet : List Char := [' ', '"', '<', '>', '\x60']

def pathSet : List Char := fragmentSet ++ ['#', '?', '\x7b', '\x7d']

def credentialSet : List Char :=
  pathSet ++ ['/', ':', ';', '=', '@', '[', '\\', ']', '^', '|']

def querySet : List Char := [' ', '"', '#', '<', '>', '\x27']

/-! ## Parts -/

/-- The schemes whose addresses name a host, and their default ports. -/
def specialPort? (scheme : String) : Option Nat :=
  [("http", 80), ("https", 443), ("ws", 80), ("wss", 443),
    ("ftp", 21)].lookup scheme

/-- Takes controls and spaces off both ends, and every tab and line break
out. -/
def clean (text : List Char) : List Char :=
  let isEdge (c : Char) : Bool := c.toNat ≤ 0x20
  let trimmed :=
    ((text.dropWhile isEdge).reverse.dropWhile isEdge).reverse
  trimmed.filter fun c => c ≠ '\t' ∧ c ≠ '\n' ∧ c ≠ '\r'

private def isLetter (c : Char) : Bool :=
  ('a' ≤ c && c ≤ 'z') || ('A' ≤ c && c ≤ 'Z')

private def isSchemeChar (c : Char) : Bool :=
  isLetter c || ('0' ≤ c && c ≤ '9') || c = '+' || c = '-' || c = '.'

/-- The scheme in lower case and the text behind its colon. -/
def splitScheme (text : List Char) : Option (String × List Char) :=
  match text.dropWhile isSchemeChar with
  | ':' :: rest =>
    let scheme := text.takeWhile isSchemeChar
    if scheme.head?.any isLetter then
      some (String.ofList (scheme.map Replacement.lowerAscii), rest)
    else none
  | _ => none

/-- Does the authority end here? -/
def endsAuthority (special : Bool) (c : Char) : Bool :=
  c = '/' || c = '?' || c = '#' || (special && c = '\\')

/-- Splits at the last at sign. -/
def splitLastAt (text : List Char) : Option (List Char × List Char) :=
  let tail := (text.reverse.takeWhile (· ≠ '@')).reverse
  if tail.length = text.length then none
  else some (text.take (text.length - tail.length - 1), tail)

/-- User name and password as they are written, with the at sign. -/
def credentialText (text : List Char) : List Char :=
  let user := percentEncode credentialSet (text.takeWhile (· ≠ ':'))
  let password := percentEncode credentialSet
    ((text.dropWhile (· ≠ ':')).drop 1)
  let password := if password.isEmpty then [] else ':' :: password
  if user.isEmpty ∧ password.isEmpty then []
  else user ++ password ++ ['@']

/-- Credentials, and the text from the host on. -/
def splitCredentials (special : Bool) (text : List Char) :
    Except AddressError (String × List Char) :=
  let authority := text.takeWhile fun c => !endsAuthority special c
  let rest := text.drop authority.length
  match splitLastAt authority with
  | none => .ok ("", text)
  | some ([], host) =>
    if host.isEmpty ∧ !rest.isEmpty then .error .emptyHost
    else .ok ("", host ++ rest)
  | some (credentials, host) =>
    .ok (String.ofList (credentialText credentials), host ++ rest)

/-- The host, which a colon outside brackets ends, and the text behind it. -/
def splitHost (special : Bool) :
    Bool → List Char → List Char × List Char
  | _, [] => ([], [])
  | bracket, c :: rest =>
    if (c = ':' && !bracket) || endsAuthority special c then ([], c :: rest)
    else
      let bracket := if c = '[' then true else if c = ']' then false
        else bracket
      let (host, after) := splitHost special bracket rest
      (c :: host, after)

/-- A port behind a colon, and the text behind it. -/
def splitPort (text : List Char) :
    Except AddressError (Option Nat × List Char) :=
  match text with
  | ':' :: rest =>
    let digits := rest.takeWhile fun c => '0' ≤ c && c ≤ '9'
    let after := rest.drop digits.length
    if after.head?.any fun c => !endsAuthority true c then .error .invalidPort
    else if digits.isEmpty then .ok (none, after)
    else
      match Text.nat? 10 0x10000 digits with
      | some port => .ok (some port, after)
      | none => .error .invalidPort
  | text => .ok (none, text)

/-! ## Paths -/

private def isDot (text : List Char) : Bool :=
  ["." , "%2e", "%2E"].contains (String.ofList text)

private def isDoubleDot (text : List Char) : Bool :=
  ["..", "%2e%2e", "%2e%2E", "%2E%2e", "%2E%2E", "%2e.", "%2E.", ".%2e",
    ".%2E"].contains (String.ofList text)

/-- A letter and a colon or a bar. -/
def isDrive : List Char → Bool
  | [letter, mark] => isLetter letter && (mark = ':' || mark = '|')
  | _ => false

/-- The segments kept so far, last one first, after a step up.  A drive is
never left. -/
def stepUp : List (List Char) → List (List Char)
  | [] => []
  | segment :: kept => if isDrive segment then segment :: kept else kept

/-- Resolves dot segments, given the segments kept so far, last one first. -/
def resolveDots : List (List Char) → List (List Char) → List (List Char)
  | kept, [] => kept.reverse
  | kept, [last] =>
    if isDoubleDot last then ([] :: stepUp kept).reverse
    else if isDot last then ([] :: kept).reverse
    else (last :: kept).reverse
  | kept, segment :: segments =>
    if isDoubleDot segment then resolveDots (stepUp kept) segments
    else if isDot segment then resolveDots kept segments
    else resolveDots (segment :: kept) segments

/-- The path in normal form; a backslash counts as a slash. -/
def normalPath (text : List Char) : String :=
  let text := text.map fun c => if c = '\\' then '/' else c
  let text := if text.head? = some '/' then text.drop 1 else text
  let segments := (Text.split '/' text).map (percentEncode pathSet)
  String.ofList ('/' :: ['/'].intercalate (resolveDots [] segments))

/-- The text in front of a mark, and what stands behind it if there is one. -/
def cut (mark : Char) (text : List Char) : List Char × Option (List Char) :=
  match text.dropWhile (· ≠ mark) with
  | [] => (text, none)
  | _ :: rest => (text.takeWhile (· ≠ mark), some rest)

/-- An address for the web from the text behind the colon of its scheme. -/
def parseSpecial (scheme : String) (text : List Char) :
    Except AddressError Url := do
  let text := text.dropWhile fun c => c = '/' || c = '\\'
  let (credentials, text) ← splitCredentials true text
  let (host, text) := splitHost true false text
  if host.isEmpty then throw .emptyHost
  let host ← Host.parse host
  let (port, text) ← splitPort text
  let (text, fragment) := cut '#' text
  let (path, query) := cut '?' text
  return { scheme, credentials, host
           port := if port = specialPort? scheme then none else port
           path := normalPath path
           query := query.map fun q =>
             String.ofList (percentEncode querySet q)
           fragment := fragment.map fun f =>
             String.ofList (percentEncode fragmentSet f) }

/-- Checks the host and the port of an address with another scheme. -/
def checkOther (text : List Char) : Except AddressError Unit :=
  match text with
  | '/' :: '/' :: rest => do
    let (credentials, text) ← splitCredentials false rest
    let (host, text) := splitHost false false text
    Host.checkOpaque host
    if host.isEmpty ∧ (text.head? = some ':' ∨ credentials ≠ "") then
      throw .emptyHost
    let _ ← splitPort text
    return ()
  | _ => .ok ()

/-- Checks the host of a file address.  A drive in its place belongs to the
path. -/
def checkFile (text : List Char) : Except AddressError Unit :=
  match text.map fun c => if c = '\\' then '/' else c with
  | '/' :: '/' :: rest =>
    let host := rest.takeWhile fun c => !endsAuthority true c
    if host.isEmpty ∨ isDrive host then .ok ()
    else (Host.parse host).map fun _ => ()
  | _ => .ok ()

end Url

/-- Reads an address. -/
def Address.parse (text : List Char) : Except AddressError Address :=
  match Url.splitScheme (Url.clean text) with
  | none => .error .relative
  | some (scheme, rest) =>
    if (Url.specialPort? scheme).isSome then do
      let url ← Url.parseSpecial scheme rest
      if scheme = "http" ∨ scheme = "https" then return .web url
      else return .other scheme
    else if scheme = "file" then do
      Url.checkFile rest
      return .other scheme
    else do
      Url.checkOther rest
      return .other scheme

end TealTools.Node

import TealTools.IpAddress

/-!
# Document identifiers

Editors name documents by absolute identifiers: a scheme, and behind a colon
an authority, a path, a query and a fragment, each of which has its own
characters.  Identifiers are kept as they are written.  One that is refused is
refused at a place, counted from its start.
-/

namespace TealTools.LanguageServer.Uri

/-! ## Characters -/

def isAlpha (c : Char) : Bool :=
  ('a' ≤ c && c ≤ 'z') || ('A' ≤ c && c ≤ 'Z')

def isDigit (c : Char) : Bool := '0' ≤ c && c ≤ '9'

def isHexDigit (c : Char) : Bool := (Text.digitValue? 16 c).isSome

def isSchemeChar (c : Char) : Bool :=
  isAlpha c || isDigit c || "+-.".toList.contains c

/-- Characters that may stand in every part: those that never separate
anything, and those that separate the parts of a part. -/
def isPlain (c : Char) : Bool :=
  isAlpha c || isDigit c || "-._~!$&'()*+,;=".toList.contains c

def isUserChar (c : Char) : Bool := isPlain c || c = ':'

def isPathChar (c : Char) : Bool := isUserChar c || c = '@' || c = '/'

def isQueryChar (c : Char) : Bool := isPathChar c || c = '?'

/-! ## Parts -/

inductive FaultKind where
  | octet
  | character
  | address
  deriving DecidableEq, Repr

/-- What is wrong with a text, and how much of the text is left there. -/
structure Fault where
  kind : FaultKind
  left : Nat
  deriving DecidableEq, Repr

/-- What is left behind a part that was read. -/
abbrev Rest := Except Fault (List Char)

/-- An unexpected character, or the unexpected end of the text. -/
def unexpected (text : List Char) : Rest :=
  .error { kind := .character, left := text.length }

/-- Reads characters of a class, and bytes behind a percent sign. -/
def skip (allowed : Char → Bool) : List Char → Rest
  | '%' :: high :: low :: rest =>
    if isHexDigit high && isHexDigit low then skip allowed rest
    else .error { kind := .octet, left := rest.length + 3 }
  | c :: rest =>
    if c = '%' then .error { kind := .octet, left := rest.length + 1 }
    else if allowed c then skip allowed rest
    else .ok (c :: rest)
  | [] => .ok []

/-- An address of a version to come. -/
def futureAddress : List Char → Rest
  | c :: rest =>
    if c = 'v' ∨ c = 'V' then
      let behind := rest.dropWhile isHexDigit
      match behind with
      | '.' :: part =>
        let after := part.dropWhile isUserChar
        if behind.length = rest.length then unexpected behind
        else if after.length = part.length then unexpected part
        else .ok after
      | _ => unexpected behind
    else unexpected (c :: rest)
  | [] => unexpected []

/-- A numeric address behind its opening bracket. -/
def literal (text : List Char) : Rest :=
  let inner := text.takeWhile (· ≠ ']')
  let behind := text.drop (inner.length + 1)
  if (IpAddress.ipv6? inner).isSome ∧ inner.length < text.length then
    .ok behind
  else if text.head?.any fun c => isHexDigit c || c = ':' then
    .error { kind := .address, left := text.length + 1 }
  else do
    match ← futureAddress text with
    | ']' :: rest => .ok rest
    | rest => unexpected rest

/-- A port, if there is one. -/
def port : List Char → List Char
  | ':' :: digits => digits.dropWhile isDigit
  | text => text

/-- A host without a user, and perhaps a port, that have been read as one run
of characters, in front of the rest. -/
def hostRun (run rest : List Char) : Rest :=
  let front := run.takeWhile (· ≠ ':')
  match run.drop front.length with
  | [] => .ok rest
  | _ :: digits =>
    if digits.contains ':' then
      unexpected (':' :: (digits.reverse.takeWhile (· ≠ ':')).reverse ++ rest)
    else
      match digits.dropWhile isDigit with
      | [] => .ok rest
      | strange => unexpected (strange ++ rest)

/-- A host behind a user. -/
def hostBehindUser : List Char → Rest
  | '[' :: rest => (literal rest).map port
  | text => (skip isPlain text).map port

/-- A host, perhaps behind a user, and perhaps with a port. -/
def authority (text : List Char) : Rest := do
  let rest ← skip isUserChar text
  match rest with
  | '@' :: host => hostBehindUser host
  | rest =>
    let run := text.take (text.length - rest.length)
    match run, text with
    | [], '[' :: inner => (literal inner).map port
    | run, _ => hostRun run rest

/-- A path behind an authority is empty or starts with a slash. -/
def rootedPath (text : List Char) : Rest := do
  let rest ← skip isPathChar text
  match text with
  | '/' :: _ => .ok rest
  | _ => if rest.length = text.length then .ok rest else unexpected text

/-- A part behind its mark, if it is there. -/
def marked (mark : Char) : List Char → Rest
  | [] => .ok []
  | c :: rest => if c = mark then skip isQueryChar rest else .ok (c :: rest)

/-- What stands behind the scheme and its colon. -/
def hierarchy (text : List Char) : Rest := do
  let rest ← match text with
    | '/' :: '/' :: rest => authority rest >>= rootedPath
    | path => skip isPathChar path
  let rest ← marked '#' (← marked '?' rest)
  if rest.isEmpty then .ok [] else unexpected rest

/-- The whole identifier. -/
def whole (text : List Char) : Rest :=
  match text.dropWhile isSchemeChar with
  | ':' :: rest =>
    if text.head?.any isAlpha then hierarchy rest else unexpected text
  | rest => unexpected rest

/-! ## Identifiers -/

/-- Why a text is no absolute identifier, if it is none. -/
def refusal? (text : List Char) : Option String :=
  match whole text with
  | .ok _ => none
  | .error fault =>
    let place := text.length - fault.left
    some (match fault.kind with
      | .octet => s!"invalid percent-encoded octet at index {place}"
      | .character => s!"unexpected character at index {place}"
      | .address => s!"invalid IPv6 address at index {place}")

/-- Is the text an absolute identifier? -/
def isValid (text : List Char) : Bool := (refusal? text).isNone

end TealTools.LanguageServer.Uri

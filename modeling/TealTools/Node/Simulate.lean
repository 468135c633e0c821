import TealTools.Json.Parser
import TealTools.Node.Endpoint
import TealTools.Simulation

/-!
# Simulating on a node

A request is completed so that the node records the effect of every opcode,
and sent to the node of an endpoint.  Which node answers at which host is a
parameter.
-/

namespace TealTools.Node

/-- A request as the node sees it. -/
structure Request where
  method : String
  target : String
  userAgent : String
  contentType : String
  token : Option String
  body : Json
  deriving Repr

structure Answer where
  status : Nat
  body : Bytes
  deriving DecidableEq, Repr

/-- The nodes that can be reached without encryption, by host and port. -/
structure Network where
  answer? : String → Nat → Option Answer

/-- No node can be reached. -/
def Network.none : Network := { answer? := fun _ _ => .none }

/-- Why there is no simulation. -/
inductive SimulateError where
  /-- The request could not be sent, or the answer was no simulation. -/
  | http
  | status (code : Nat) (message : String)
  | invalidRequest
  deriving DecidableEq, Repr

def SimulateError.message : SimulateError → String
  | http => "request failed: ..."
  | status code message => s!"algod responded with status {code}: {message}"
  | invalidRequest => "simulate request must be a JSON object"

/-- Asks for the stack and scratch changes of every opcode. -/
def traceConfig : Json :=
  .obj [("enable", .bool true), ("stack-change", .bool true),
    ("scratch-change", .bool true), ("state-change", .bool true)]

/-- Sets a member of an object. -/
def setMember (name : String) (value : Json)
    (members : List (Option String × Json)) : List (Option String × Json) :=
  (members.filter fun member => member.1 ≠ some name) ++ [(some name, value)]

/-- The request with tracing switched on.  Empty signatures are allowed unless
the request itself says otherwise. -/
def withTrace? : Json → Option Json
  | .object members =>
    let traced := setMember "exec-trace-config" traceConfig members
    let signatures := some "allow-empty-signatures"
    if traced.any fun member => member.1 = signatures then
      some (.object traced)
    else some (.object (traced ++ [(signatures, .bool true)]))
  | _ => .none

/-- Can the text be sent in a header? -/
def isHeaderText (text : String) : Bool :=
  (Text.utf8 text.toList).all fun byte =>
    (byte ≥ 0x20 && byte ≠ 0x7F) || byte = 0x09

/-- The header without the blanks around it. -/
def headerText (text : String) : String :=
  let isPad (c : Char) : Bool := c = ' ' || c = '\t'
  String.ofList
    ((text.toList.dropWhile isPad).reverse.dropWhile isPad).reverse

/-- UTF-16 units, the less significant byte first or last. -/
def units16 (bigEndian : Bool) : Bytes → List Nat
  | a :: b :: rest =>
    (if bigEndian then a.toNat * 256 + b.toNat else b.toNat * 256 + a.toNat)
      :: units16 bigEndian rest
  | [_] => [0xDC00]
  | [] => []

/-- The text of UTF-16 units, a half pair replaced. -/
def ofUnits16 : List Nat → List Char
  | [] => []
  | [unit] =>
    [if 0xD800 ≤ unit ∧ unit ≤ 0xDFFF then Text.replacement
      else Char.ofNat unit]
  | high :: low :: rest =>
    if 0xD800 ≤ high ∧ high ≤ 0xDBFF ∧ 0xDC00 ≤ low ∧ low ≤ 0xDFFF then
      Char.ofNat (0x10000 + (high - 0xD800) * 0x400 + (low - 0xDC00)) ::
        ofUnits16 rest
    else if 0xD800 ≤ high ∧ high ≤ 0xDFFF then
      Text.replacement :: ofUnits16 (low :: rest)
    else Char.ofNat high :: ofUnits16 (low :: rest)

/-- The text of an answer.  A byte order mark decides its encoding. -/
def answerText : Bytes → List Char
  | 0xEF :: 0xBB :: 0xBF :: rest => Text.ofUtf8 rest
  | 0xFF :: 0xFE :: rest => ofUnits16 (units16 false rest)
  | 0xFE :: 0xFF :: rest => ofUnits16 (units16 true rest)
  | bytes => Text.ofUtf8 bytes

/-- Replaces the ill-formed parts of a document.  One in a string becomes half
of a surrogate pair, which a string may hold only where it is ignored; one
behind a backslash becomes a control, which no escape ends in. -/
def legible : List (Option Char) → List Char
  | [] => []
  | some '\\' :: next :: rest => '\\' :: next.getD '\x00' :: legible rest
  | some c :: rest => c :: legible rest
  | none :: rest => "\\ud800".toList ++ legible rest

/-- The text of a document. -/
def documentText (bytes : Bytes) : List Char :=
  legible (Text.readChars bytes)

/-- Does a status end an exchange?  One below 200 announces another answer,
which never comes, unless the protocol is switched. -/
def isFinal (status : Nat) : Bool :=
  status = 101 || (200 ≤ status && status < 1000)

/-- What an answer says. -/
def Answer.simulation (answer : Answer) : Except SimulateError Simulation :=
  let isBare := [101, 204, 304].contains answer.status
  let body := if isBare then [] else answer.body
  if !isFinal answer.status then .error .http
  else if 200 ≤ answer.status ∧ answer.status < 300 then
    match (Json.parse? (documentText body)).bind Simulation.decode? with
    | some simulation => .ok simulation
    | none => .error .http
  else .error (.status answer.status (String.ofList (answerText body)))

/-- The machine itself is known by name. -/
def numericHost (host : String) : String :=
  if host = "localhost" then "127.0.0.1" else host

/-- How the program introduces itself to a node. -/
def userAgent : String := "tealsp/0.1.0"

/-- Posts a completed request to an address. -/
def send (network : Network) (address token : String) (body : Json) :
    Except SimulateError Simulation × List Request :=
  match Address.parse address.toList with
  | .ok (.web url) =>
    if !isHeaderText token ∨ url.scheme ≠ "http" then (.error .http, [])
    else
      match network.answer? (numericHost url.host) (url.port.getD 80) with
      | none => (.error .http, [])
      | some answer =>
        let query := match url.query with
          | some query => "?" ++ query
          | none => ""
        let request : Request :=
          { method := "POST"
            target := url.path ++ query
            userAgent
            contentType := "application/json"
            token := if token.isEmpty then none else some (headerText token)
            body }
        (answer.simulation, [request])
  | _ => (.error .http, [])

/-- Simulates a request on the node of an endpoint, and lists what was
sent. -/
def simulate (network : Network) (endpoint : Endpoint) (request : Json) :
    Except SimulateError Simulation × List Request :=
  match withTrace? request with
  | none => (.error .invalidRequest, [])
  | some body =>
    send network endpoint.simulateAddress endpoint.token body

end TealTools.Node

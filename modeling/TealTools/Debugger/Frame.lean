import TealTools.Debugger.Request
import TealTools.Json.Parser
import TealTools.Text.Blank
import TealTools.Text.Split
import TealTools.Text.Utf8

/-!
# Framed requests

A request comes behind a header line that gives its length in bytes, and one
more line.  The input ends in good order at the beginning of a line.
-/

namespace TealTools.Debugger

/-- Why a session is given up. -/
inductive ServeError where
  | header (line : String)
  | unknownHeader (name : String)
  /-- The input ends inside a request, or the output takes no more. -/
  | inputOutput
  | malformed
  deriving DecidableEq, Repr

def ServeError.message : ServeError → String
  | header line => s!"Could not parse header line '{line}'"
  | unknownHeader name => s!"Unknown header: {name}"
  | inputOutput => "I/O error"
  | malformed => "Parse error"

namespace Frame

/-- The first line with its line feed, and what stands behind it. -/
def splitLine : Bytes → Bytes × Bytes
  | [] => ([], [])
  | byte :: rest =>
    if byte = 0x0A then ([byte], rest)
    else (byte :: (splitLine rest).1, (splitLine rest).2)

private theorem length_splitLine (input : Bytes) :
    (splitLine input).1.length + (splitLine input).2.length =
      input.length := by
  induction input with
  | nil => rfl
  | cons byte rest ih =>
    unfold splitLine
    split
    · simp [Nat.add_comm]
    · simp only [List.length_cons]
      omega

/-- The length that a header line gives. -/
def contentLength (line : List Char) : Except ServeError Nat :=
  match Text.split ':' (Text.trimEnd line) with
  | [name, value] =>
    if name ≠ "Content-Length".toList then
      .error (.unknownHeader (String.ofList name))
    else
      match Text.nat? 10 UInt64.size (Text.trim value) with
      | some length => .ok length
      | none => .error (.header (String.ofList line))
  | _ => .error (.header (String.ofList line))

/-- The body behind the header lines, and the input behind the body. -/
def body (length : Nat) (input : Bytes) :
    Except ServeError (Option (Bytes × Bytes)) :=
  match splitLine input with
  | ([], _) => .ok none
  | (line, rest) =>
    if (Text.ofUtf8? line).isNone ∨ rest.length < length then
      .error .inputOutput
    else .ok (some (rest.take length, rest.drop length))

/-- The first body of the input, and the input behind it. -/
def next (input : Bytes) : Except ServeError (Option (Bytes × Bytes)) :=
  match splitLine input with
  | ([], _) => .ok none
  | (line, rest) =>
    match Text.ofUtf8? line with
    | none => .error .inputOutput
    | some line =>
      match contentLength line with
      | .error cause => .error cause
      | .ok length => body length rest

/-- Does a line end behind itself, and not with the input? -/
def isLine (line : Bytes) : Bool :=
  line.getLast? = some 0x0A

/-- Is the first body there whole, or is it known that there is none?  What
comes in later makes no difference then. -/
def isSettled (input : Bytes) : Bool :=
  let (line, behind) := splitLine input
  isLine line &&
    match Text.ofUtf8? line with
    | none => true
    | some header =>
      match contentLength header with
      | .error _ => true
      | .ok length =>
        let (blank, rest) := splitLine behind
        isLine blank &&
          ((Text.ofUtf8? blank).isNone || length ≤ rest.length)

private theorem length_body_rest {length : Nat} {input content rest : Bytes}
    (success : body length input = .ok (some (content, rest))) :
    rest.length ≤ input.length := by
  have lengths := length_splitLine input
  unfold body at success
  split at success
  · simp at success
  · rename_i line behind nonempty equation
    split at success
    · simp at success
    · simp only [Except.ok.injEq, Option.some.injEq, Prod.mk.injEq] at success
      rw [equation] at lengths
      rw [← success.2]
      simp only [List.length_drop]
      dsimp only at lengths
      omega

/-- A body takes some of the input. -/
theorem length_next_rest {input content rest : Bytes}
    (success : next input = .ok (some (content, rest))) :
    rest.length < input.length := by
  have lengths := length_splitLine input
  unfold next at success
  split at success
  · simp at success
  · rename_i line behind nonempty equation
    split at success
    · simp at success
    · split at success
      · simp at success
      · have bound := length_body_rest success
        rw [equation] at lengths
        have positive : 0 < line.length := by
          cases line with
          | nil => exact absurd rfl nonempty
          | cons byte bytes => simp
        dsimp only at lengths
        omega

/-- The request that a body holds. -/
def request (content : Bytes) : Except ServeError Request :=
  match ((Text.ofUtf8? content).bind Json.parse?).bind Request.decode? with
  | some request => .ok request
  | none => .error .malformed

end Frame

end TealTools.Debugger

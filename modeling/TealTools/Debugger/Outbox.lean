import TealTools.Debugger.Message
import TealTools.Framing
import TealTools.Json.Printer

/-!
# Sending messages

Messages are numbered and written one after another.  The output may stop
taking them; what was not written whole never arrives, but keeps its number.
-/

namespace TealTools.Debugger

/-- The way of messages to the editor. -/
structure Outbox where
  /-- How many messages have a number. -/
  count : Nat
  /-- How many bytes the output has taken. -/
  taken : Nat
  /-- The number of bytes from which on the output takes no more. -/
  limit : Option Nat
  /-- The messages that arrived, with their numbers. -/
  arrived : List (Nat × Message)
  deriving Repr

namespace Outbox

/-- An output that takes everything, or no more than a number of bytes. -/
def empty (limit : Option Nat) : Outbox :=
  { count := 0, taken := 0, limit, arrived := [] }

/-- How many bytes are collected before they are written. -/
def bufferSize : Nat := 8192

/-- The sizes of the writes in which parts leave the buffer, given how much of
it is filled. -/
def writes (filled : Nat) : List Nat → List Nat
  | [] => if filled = 0 then [] else [filled]
  | part :: parts =>
    if filled + part ≤ bufferSize then writes (filled + part) parts
    else if part < bufferSize then filled :: writes part parts
    else filled :: part :: writes 0 parts

/-- The parts of a framed message: a header, the body and a line end. -/
def parts (seq : Nat) (message : Message) : List Nat :=
  let body := (Text.utf8 (message.toJson seq).write).length
  [(Framing.header body).length, body, 2]

/-- A message as it is sent. -/
def frame (seq : Nat) (message : Message) : Bytes :=
  Framing.framed (Text.utf8 (message.toJson seq).write) ++
    Text.utf8 "\r\n".toList

/-- Cuts bytes into pieces of the given sizes. -/
def cut : List Nat → Bytes → List Bytes
  | [], _ => []
  | size :: sizes, bytes => bytes.take size :: cut sizes (bytes.drop size)

/-- A message in the pieces in which it leaves the buffer. -/
def pieces (seq : Nat) (message : Message) : List Bytes :=
  cut (writes 0 (parts seq message)) (frame seq message)

/-- Does the output take another write? -/
def takes (outbox : Outbox) : Bool :=
  outbox.limit.all (outbox.taken < ·)

/-- Writes as long as the output takes it, and tells whether it took all. -/
def deliver (outbox : Outbox) : List Nat → Bool × Outbox
  | [] => (true, outbox)
  | size :: sizes =>
    if outbox.takes then
      { outbox with taken := outbox.taken + size }.deliver sizes
    else (false, outbox)

/-- Sends one message, and tells whether it arrived. -/
def send (outbox : Outbox) (message : Message) : Bool × Outbox :=
  let seq := outbox.count + 1
  match { outbox with count := seq }.deliver (writes 0 (parts seq message)) with
  | (true, after) =>
    (true, { after with arrived := after.arrived ++ [(seq, message)] })
  | (false, after) => (false, after)

/-- Sends messages up to the first that does not arrive. -/
def sendAll (outbox : Outbox) : List Message → Bool × Outbox
  | [] => (true, outbox)
  | message :: messages =>
    match outbox.send message with
    | (true, after) => after.sendAll messages
    | (false, after) => (false, after)

/-- Sends lines to the debug console; a line that does not arrive is
dropped. -/
def sendLines (outbox : Outbox) (lines : List String) : Outbox :=
  lines.foldl (fun outbox line => (outbox.send (.event (.output line))).2)
    outbox

end Outbox

end TealTools.Debugger

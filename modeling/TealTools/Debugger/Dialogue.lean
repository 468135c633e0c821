import TealTools.Debugger.Service
import TealTools.TrafficLog

/-!
# Debugging over a connection

Bytes of the editor are kept until a request is there whole; then it is
handled.  Messages leave in the pieces in which they are written.
-/

namespace TealTools.Debugger

/-- A debug session that takes in its requests piece by piece. -/
structure Dialogue where
  service : Service
  /-- Bytes of a request that is not there whole. -/
  buffer : Bytes
  /-- How the session has ended, once it has. -/
  ending : Option (Except ServeError Unit)

namespace Dialogue

/-- A session to which nothing has come in yet. -/
def fresh (adapter : Adapter) : Dialogue :=
  { service := .fresh adapter none, buffer := [], ending := none }

/-- Handles every request that is there whole. -/
def drain (environment : Environment) (service : Service) (buffer : Bytes) :
    Dialogue :=
  if !Frame.isSettled buffer then { service, buffer, ending := none }
  else
    match _ : Frame.next buffer with
    | .error cause => { service, buffer, ending := some (.error cause) }
    | .ok none => { service, buffer, ending := some (.ok ()) }
    | .ok (some (content, rest)) =>
      match Frame.request content with
      | .error cause =>
        { service, buffer := rest, ending := some (.error cause) }
      | .ok request =>
        match service.handle environment request with
        | (false, after) =>
          { service := after, buffer := rest
            ending := some (.error .inputOutput) }
        | (true, after) =>
          if Adapter.endsSession request.command then
            { service := after, buffer := rest, ending := some (.ok ()) }
          else drain environment after rest
termination_by buffer.length
decreasing_by exact Frame.length_next_rest ‹_›

/-- Takes in bytes of the editor. -/
def receive (environment : Environment) (dialogue : Dialogue)
    (bytes : Bytes) : Dialogue :=
  if dialogue.ending.isSome then dialogue
  else drain environment dialogue.service (dialogue.buffer ++ bytes)

/-- Ends the input.  Whatever is left over is served as it is. -/
def close (environment : Environment) (dialogue : Dialogue) : Dialogue :=
  if dialogue.ending.isSome then dialogue
  else
    let (service, result) :=
      dialogue.service.run environment [] dialogue.buffer
    { service, buffer := [], ending := some result }

/-- The messages that arrived since an earlier state of the session, with their
numbers. -/
def since (before after : Dialogue) : List (Nat × Message) :=
  after.service.outbox.arrived.drop before.service.outbox.arrived.length

/-- Sends messages to the editor. -/
def sendAll {σ : Type} (stream : Stream σ Empty)
    (messages : List (Nat × Message)) (state : σ) : σ :=
  messages.foldl
    (fun state sent => stream.send (Outbox.pieces sent.1 sent.2) state) state

/-- Serves the editor behind a stream.  Each read takes in up to a number of
bytes; the input ends behind the last one. -/
def converse {σ : Type} (stream : Stream σ Empty) (environment : Environment)
    (dialogue : Dialogue) (state : σ) : List Nat → Dialogue × σ
  | [] =>
    let closed := dialogue.close environment
    (closed, sendAll stream (dialogue.since closed) state)
  | room :: rooms =>
    if dialogue.ending.isSome then (dialogue, state)
    else
      let (bytes, state) := stream.receive room state
      let after := dialogue.receive environment bytes
      after.converse stream environment
        (sendAll stream (dialogue.since after) state) rooms

end Dialogue

end TealTools.Debugger

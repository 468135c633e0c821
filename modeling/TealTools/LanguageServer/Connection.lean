import TealTools.Framing
import TealTools.LanguageServer.Decoder
import TealTools.LanguageServer.PolledStream
import TealTools.LanguageServer.Server

/-!
# A server on a connection

Messages that come in together are accepted one after the other and then
carried out.  The connection is over when the server exits, when the input is
no message, or when it ends.
-/

namespace TealTools.LanguageServer

structure Connection where
  decoder : Decoder
  server : Server
  isOver : Bool

namespace Connection

def fresh (diagnose : String → List Diagnostic) : Connection :=
  { decoder := .empty, server := .fresh diagnose, isOver := false }

/-- Why no more messages are accepted. -/
inductive Halt where
  /-- The rest of the input waits for more. -/
  | waiting
  | exited
  | failed (error : RpcError)

/-- Accepts every complete message. -/
def accept (phase : Phase) (tasks : List Server.Task) (decoder : Decoder) :
    Phase × List Server.Task × Decoder × Halt :=
  match _ : decoder.next with
  | .waiting after => (phase, tasks, after, .waiting)
  | .failed error => (phase, tasks, decoder, .failed error)
  | .message .answer after => accept phase tasks after
  | .message (.call call) after =>
    let (phase, task) := Server.accept phase (Server.pendingIds tasks) call
    let tasks := tasks ++ [task]
    if phase = .exited then (phase, tasks, after, .exited)
    else accept phase tasks after
termination_by decoder.buffer.length
decreasing_by all_goals exact Decoder.length_next ‹_›

/-- Handles every complete message.  That the input is no message is said
before anything else is answered. -/
def drain (server : Server) (decoder : Decoder) :
    Connection × List Outgoing :=
  let (phase, tasks, decoder, halt) := accept server.phase [] decoder
  let server := { server with phase }
  match halt with
  | .waiting =>
    let (server, messages) := server.performAll [] tasks
    ({ decoder, server, isOver := false }, messages)
  | .exited =>
    let (server, messages) := server.leave tasks
    ({ decoder, server, isOver := true }, messages)
  | .failed error =>
    let (server, messages) := server.performAll [] tasks
    ({ decoder, server, isOver := true }, .failure .null error :: messages)

/-- Takes in bytes of the editor. -/
def receive (connection : Connection) (bytes : Bytes) :
    Connection × List Outgoing :=
  if connection.isOver then (connection, [])
  else drain connection.server (connection.decoder.push bytes)

/-- Ends the input.  Bytes that are left over are no message. -/
def close (connection : Connection) : Connection × List Outgoing :=
  if connection.isOver then (connection, [])
  else
    let (drained, answers) := drain connection.server connection.decoder
    let left :=
      if drained.isOver ∨ drained.decoder.buffer.isEmpty then []
      else [Outgoing.failure .null .malformed]
    ({ drained with isOver := true }, answers ++ left)

/-- Sends messages to the editor, each with a write of its own. -/
def sendAll {σ : Type} (stream : PolledStream σ Empty)
    (messages : List Outgoing) (state : σ) : σ :=
  messages.foldl
    (fun state message =>
      stream.send (Framing.framed (Text.utf8 message.toJson.write)) state)
    state

/-- Serves the editor behind a stream, and lists what is sent.  Each read
takes in up to a number of bytes; the input ends behind the last one. -/
def converse {σ : Type} (stream : PolledStream σ Empty)
    (connection : Connection) (state : σ) :
    List Nat → (Connection × List Outgoing) × σ
  | [] =>
    let (closed, messages) := connection.close
    ((closed, messages), sendAll stream messages state)
  | room :: rooms =>
    if connection.isOver then ((connection, []), state)
    else
      let (bytes, state) := stream.receive room state
      let (connection, first) := connection.receive bytes
      let ((connection, later), state) :=
        connection.converse stream (sendAll stream first state) rooms
      ((connection, first ++ later), state)

end Connection

end TealTools.LanguageServer

import TealTools.LanguageServer.Connection
import TealTools.Proofs.Pipe

/-!
# A server on a pipe

Over a pipe a server answers each piece of the input before the next comes in,
and everything that it has to say is written.  A log beside the connection
changes nothing about this and takes down what passes.
-/

namespace TealTools.LanguageServer.Connection

open Pipe (Echoes EchoesOn)

/-- Takes in pieces of the input one after the other, and then its end. -/
def answers (connection : Connection) :
    List Bytes → Connection × List Outgoing
  | [] => connection.close
  | piece :: pieces =>
    let (after, first) := connection.receive piece
    let (last, later) := after.answers pieces
    (last, first ++ later)

/-- Messages as they stand on a connection. -/
def written (messages : List Outgoing) : Bytes :=
  messages.flatMap fun message =>
    Framing.framed (Text.utf8 message.toJson.write)

theorem sendAll_pipe (messages : List Outgoing) (state : Pipe) :
    sendAll pipe messages state =
      { state with outgoing := state.outgoing ++ written messages } := by
  induction messages generalizing state with
  | nil => simp [sendAll, written]
  | cons message messages induction =>
      have later := induction
        (pipe.send (Framing.framed (Text.utf8 message.toJson.write)) state)
      rw [sendAll] at later ⊢
      rw [List.foldl_cons, later]
      simp [written, PolledStream.send, pipe]

private theorem answers_of_isOver {connection : Connection}
    (isOver : connection.isOver = true) (pieces : List Bytes) :
    connection.answers pieces = (connection, []) := by
  induction pieces with
  | nil => rw [answers, close, if_pos isOver]
  | cons piece pieces induction =>
      rw [answers, receive, if_pos isOver]
      simp only [induction, List.append_nil]

/-- What comes in piece by piece is answered piece by piece, and the answers
are written. -/
theorem converse_pipe (connection : Connection) (pieces : List Bytes)
    (state : Pipe) (incoming : state.incoming = pieces.flatten) :
    let (result, last) :=
      connection.converse pipe state (pieces.map List.length)
    result = connection.answers pieces ∧
      last.outgoing = state.outgoing ++ written result.2 := by
  induction pieces generalizing connection state with
  | nil =>
      rw [List.map_nil, converse]
      dsimp only
      rw [sendAll_pipe]
      exact ⟨rfl, rfl⟩
  | cons piece pieces induction =>
      rw [List.map_cons, converse]
      by_cases isOver : connection.isOver = true
      · rw [if_pos isOver, answers_of_isOver isOver]
        exact ⟨rfl, (List.append_nil _).symm⟩
      · have received : pipe.receive piece.length state =
            (piece, { state with incoming := pieces.flatten }) := by
          rw [receive_pipe, incoming, List.flatten_cons, List.take_left,
            List.drop_left]
        rw [if_neg isOver, received, answers]
        dsimp only
        rw [sendAll_pipe]
        obtain ⟨same, outgoing⟩ := induction (connection.receive piece).1
          { incoming := pieces.flatten
            outgoing :=
              state.outgoing ++ written (connection.receive piece).2 } rfl
        dsimp only at same outgoing ⊢
        rw [← same, outgoing]
        refine ⟨rfl, ?_⟩
        simp only [written, List.flatMap_append, List.append_assoc]

theorem echoes_converse (connection : Connection) (rooms : List Nat) :
    Echoes (fun state => connection.converse pipe state rooms)
      fun state =>
        connection.converse (pipe.logged .incoming .outgoing) state rooms := by
  have sends : ∀ messages, EchoesOn (sendAll pipe messages)
      (sendAll (pipe.logged .incoming .outgoing) messages) :=
    fun messages => .foldl (fun _ => echoesOn_send _) messages
  induction rooms generalizing connection with
  | nil => exact (sends _).map fun _ => connection.close
  | cons room rooms induction =>
      simp only [converse]
      by_cases isOver : connection.isOver = true
      · simp only [if_pos isOver]
        exact .pure (connection, [])
      · have goesOn : ∀ bytes, Echoes
            (fun state =>
              let answer := connection.receive bytes
              let rest :=
                answer.1.converse pipe (sendAll pipe answer.2 state) rooms
              ((rest.1.1, answer.2 ++ rest.1.2), rest.2))
            fun state =>
              let stream := pipe.logged .incoming .outgoing
              let answer := connection.receive bytes
              let rest :=
                answer.1.converse stream (sendAll stream answer.2 state) rooms
              ((rest.1.1, answer.2 ++ rest.1.2), rest.2) := by
          intro bytes
          have rest := (sends (connection.receive bytes).2).bind fun _ =>
            induction (connection.receive bytes).1
          exact rest.map fun answered =>
            (answered.1, (connection.receive bytes).2 ++ answered.2)
        simp only [if_neg isOver]
        exact (echoes_receive room).bind goesOn

end TealTools.LanguageServer.Connection

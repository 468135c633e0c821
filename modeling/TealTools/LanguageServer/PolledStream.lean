import TealTools.TrafficLog

/-!
# Streams that are polled

The connection of a language server is asked for bytes and may have none yet.
Bytes are read into a buffer that may already hold some.
-/

namespace TealTools.LanguageServer

/-- What was asked for, if it is there already. -/
inductive Poll (α : Type) where
  | pending
  | ready (value : α)
  deriving DecidableEq, Repr

/-- A buffer that is filled from its front. -/
structure ReadBuffer where
  filled : Bytes
  /-- How many bytes still go in. -/
  room : Nat
  deriving DecidableEq, Repr

/-- A connection in state `σ`, on which a transfer may fail with `ε` or has to
wait. -/
structure PolledStream (σ ε : Type) where
  /-- Reads bytes into the room of a buffer. -/
  read : ReadBuffer → σ → Poll (Except ε Unit) × ReadBuffer × σ
  /-- Writes some of the bytes and counts them. -/
  write : Bytes → σ → Poll (Except ε Nat) × σ
  flush : σ → Poll (Except ε Unit) × σ
  shutdown : σ → Poll (Except ε Unit) × σ

namespace PolledStream

/-- The same connection with a log beside it, in which reads and writes are
marked as given. -/
def logged {σ ε : Type} (stream : PolledStream σ ε)
    (reads writes : Direction) : PolledStream (σ × TrafficLog) ε where
  read buffer state :=
    match stream.read buffer state.1 with
    | (.ready (.ok ()), after, next) =>
      let fresh := after.filled.drop buffer.filled.length
      (.ready (.ok ()), after, next, state.2.record reads fresh)
    | (poll, after, next) => (poll, after, next, state.2)
  write bytes state :=
    match stream.write bytes state.1 with
    | (.ready (.ok count), next) =>
      (.ready (.ok count), next,
        state.2.record writes (Stream.counted bytes count))
    | (poll, next) => (poll, next, state.2)
  flush state :=
    let (poll, next) := stream.flush state.1
    (poll, next, state.2)
  shutdown state :=
    let (poll, next) := stream.shutdown state.1
    (poll, next, state.2)

/-- Reads up to a number of bytes from a connection that does not fail; none
if there are none yet. -/
def receive {σ : Type} (stream : PolledStream σ Empty) (room : Nat)
    (state : σ) : Bytes × σ :=
  match stream.read { filled := [], room } state with
  | (.pending, _, next) => ([], next)
  | (.ready (.ok ()), after, next) => (after.filled, next)

/-- Writes bytes to a connection that takes them whole, and flushes them. -/
def send {σ : Type} (stream : PolledStream σ Empty) (bytes : Bytes)
    (state : σ) : σ :=
  (stream.flush (stream.write bytes state).2).2

end PolledStream

/-- A connection in memory never lets anybody wait. -/
def pipe : PolledStream Pipe Empty where
  read buffer state :=
    let bytes := state.incoming.take buffer.room
    (.ready (.ok ()),
      { filled := buffer.filled ++ bytes, room := buffer.room - bytes.length },
      { state with incoming := state.incoming.drop buffer.room })
  write bytes state :=
    (.ready (.ok bytes.length),
      { state with outgoing := state.outgoing ++ bytes })
  flush state := (.ready (.ok ()), state)
  shutdown state := (.ready (.ok ()), state)

end TealTools.LanguageServer

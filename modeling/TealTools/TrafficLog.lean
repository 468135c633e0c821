import TealTools.Files

/-!
# Traffic logs

A log takes a copy of everything that passes over a connection, one entry for
each transfer.  The first entry that cannot be written whole closes the log;
the connection goes on without it.
-/

namespace TealTools

inductive Direction where
  | incoming
  | outgoing
  deriving DecidableEq, Repr

/-- The first bytes of an entry. -/
def Direction.marker : Direction → Bytes
  | incoming => Text.utf8 "<-- ".toList
  | outgoing => Text.utf8 "--> ".toList

structure TrafficLog where
  content : Bytes
  /-- How many bytes each of the next writes can add, if writes can fail; the
  writes behind them add nothing. -/
  room : Option (List Nat)
  isOpen : Bool
  deriving DecidableEq, Repr

namespace TrafficLog

/-- A marker, the bytes of a transfer, and a line feed. -/
def entry (direction : Direction) (bytes : Bytes) : Bytes :=
  direction.marker ++ bytes ++ [0x0A]

/-- Adds as many bytes as there is room for, and tells whether it added all. -/
def write (log : TrafficLog) (bytes : Bytes) : Bool × TrafficLog :=
  match log.room with
  | none => (true, { log with content := log.content ++ bytes })
  | some rooms =>
    let room := rooms.headD 0
    (bytes.length ≤ room,
      { log with
        content := log.content ++ bytes.take room
        room := some rooms.tail })

/-- Writes parts one behind the other, up to the first that is not added
whole. -/
def writeParts (log : TrafficLog) : List Bytes → Bool × TrafficLog
  | [] => (true, log)
  | part :: parts =>
    match log.write part with
    | (true, after) => after.writeParts parts
    | (false, after) => (false, after)

/-- Writes the entry of a transfer, and tells whether it is there whole. -/
def writeEntry (log : TrafficLog) (direction : Direction) (bytes : Bytes) :
    Bool × TrafficLog :=
  log.writeParts [direction.marker, bytes, [0x0A]]

/-- Adds the entry of a transfer.  Nothing is written for an empty transfer or
once the log is closed. -/
def record (log : TrafficLog) (direction : Direction) (bytes : Bytes) :
    TrafficLog :=
  if bytes.isEmpty ∨ log.isOpen = false then log
  else
    match log.writeEntry direction bytes with
    | (true, after) => after
    | (false, after) => { after with isOpen := false }

/-- An empty log. -/
def fresh (room : Option (List Nat)) : TrafficLog :=
  { content := [], room, isOpen := true }

/-- Opens an empty log in a file. -/
def create (files : Files) (path : Bytes) :
    Except FileError (TrafficLog × Files) := do
  let files ← files.create path
  return (fresh (if files.refusesWrites path then some [] else none), files)

/-- Puts what a log holds into its file.  A device keeps nothing. -/
def save (log : TrafficLog) (path : Bytes) (files : Files) : Files :=
  match files.locate path with
  | .error _ => files
  | .ok place =>
    match files.get? place with
    | some (.file _) => files.set place (.file log.content)
    | _ => files

end TrafficLog

/-- A connection in state `σ`, on which a transfer may fail with `ε`. -/
structure Stream (σ ε : Type) where
  /-- Reads bytes to the front of a buffer and counts them. -/
  read : Bytes → σ → Except ε Nat × Bytes × σ
  /-- Writes some of the bytes and counts them. -/
  write : Bytes → σ → Except ε Nat × σ
  flush : σ → Except ε Unit × σ

namespace Stream

/-- As many bytes as were counted, or none if there are fewer. -/
def counted (bytes : Bytes) (count : Nat) : Bytes :=
  if count ≤ bytes.length then bytes.take count else []

/-- The same connection with a log beside it, in which reads and writes are
marked as given. -/
def logged {σ ε : Type} (stream : Stream σ ε) (reads writes : Direction) :
    Stream (σ × TrafficLog) ε where
  read buffer state :=
    match stream.read buffer state.1 with
    | (.ok count, after, next) =>
      (.ok count, after, next, state.2.record reads (counted after count))
    | (.error cause, after, next) => (.error cause, after, next, state.2)
  write bytes state :=
    match stream.write bytes state.1 with
    | (.ok count, next) =>
      (.ok count, next, state.2.record writes (counted bytes count))
    | (.error cause, next) => (.error cause, next, state.2)
  flush state :=
    let (result, next) := stream.flush state.1
    (result, next, state.2)

/-- Reads up to a number of bytes from a connection that does not fail. -/
def receive {σ : Type} (stream : Stream σ Empty) (room : Nat) (state : σ) :
    Bytes × σ :=
  match stream.read (List.replicate room 0) state with
  | (.ok count, after, next) => (counted after count, next)

/-- Writes pieces one behind the other to a connection that takes each of them
whole, and flushes them. -/
def send {σ : Type} (stream : Stream σ Empty) (pieces : List Bytes)
    (state : σ) : σ :=
  (stream.flush
    (pieces.foldl (fun state piece => (stream.write piece state).2) state)).2

end Stream

/-- A connection in memory: the bytes that are still to be read, and those
that were written. -/
structure Pipe where
  incoming : Bytes
  outgoing : Bytes
  deriving DecidableEq, Repr

/-- A pipe never fails. -/
def Pipe.stream : Stream Pipe Empty where
  read buffer pipe :=
    let bytes := pipe.incoming.take buffer.length
    (.ok bytes.length, bytes ++ buffer.drop bytes.length,
      { pipe with incoming := pipe.incoming.drop buffer.length })
  write bytes pipe :=
    (.ok bytes.length, { pipe with outgoing := pipe.outgoing ++ bytes })
  flush pipe := (.ok (), pipe)

end TealTools

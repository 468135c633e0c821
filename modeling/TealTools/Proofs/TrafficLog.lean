import Mathlib.Data.List.ReduceOption
import TealTools.LanguageServer.PolledStream

/-!
# Copies of traffic

A connection with a log answers as it does without one.  The log holds whole
entries, in the order of the transfers, up to the first entry that cannot be
written whole.  The beginning of that entry may stay behind, and nothing comes
after it.
-/

namespace TealTools

/-! ## Transfers -/

/-- Bytes that passed over a connection. -/
structure Transfer where
  direction : Direction
  bytes : Bytes
  nonempty : bytes ≠ []

namespace Transfer

def of? (direction : Direction) (bytes : Bytes) : Option Transfer :=
  if nonempty : bytes ≠ [] then some { direction, bytes, nonempty }
  else none

def entry (transfer : Transfer) : Bytes :=
  TrafficLog.entry transfer.direction transfer.bytes

/-- An entry as it is written, one part after the other. -/
def parts (transfer : Transfer) : List Bytes :=
  [transfer.direction.marker, transfer.bytes, [0x0A]]

@[simp] theorem flatten_parts (transfer : Transfer) :
    transfer.parts.flatten = transfer.entry := by
  simp [parts, entry, TrafficLog.entry]

end Transfer

namespace TrafficLog

/-! ## Room for what is written -/

/-- Each part goes in with a write of its own, and none falls short. -/
def HasRoom : Option (List Nat) → List Bytes → Prop
  | none, _ | _, [] => True
  | some rooms, part :: parts =>
    part.length ≤ rooms.headD 0 ∧ HasRoom (some rooms.tail) parts

/-- The room that is left behind a number of writes. -/
def roomBehind (writes : Nat) (room : Option (List Nat)) :
    Option (List Nat) :=
  room.map (·.drop writes)

/-- The log after a number of writes that added the given bytes. -/
def extended (log : TrafficLog) (writes : Nat) (bytes : Bytes) : TrafficLog :=
  { log with
    content := log.content ++ bytes
    room := roomBehind writes log.room }

@[simp] theorem hasRoom_nil {room : Option (List Nat)} : HasRoom room [] := by
  cases room <;> trivial

theorem hasRoom_append {room : Option (List Nat)} (first second : List Bytes) :
    HasRoom room (first ++ second) ↔
      HasRoom room first ∧
        HasRoom (roomBehind first.length room) second := by
  cases room with
  | none => simp [HasRoom, roomBehind]
  | some rooms =>
      induction first generalizing rooms with
      | nil => simp [HasRoom, roomBehind]
      | cons part parts ih =>
          simp only [List.cons_append, HasRoom, ih, and_assoc]
          simp [roomBehind]

theorem hasRoom_cons {room : Option (List Nat)} {part : Bytes}
    {parts : List Bytes} :
    HasRoom room (part :: parts) ↔
      HasRoom room [part] ∧ HasRoom (roomBehind 1 room) parts :=
  hasRoom_append [part] parts

@[simp] theorem extended_extended {log : TrafficLog} {first second : Nat}
    {before behind : Bytes} :
    (log.extended first before).extended second behind =
      log.extended (first + second) (before ++ behind) := by
  simp [extended, roomBehind, Function.comp_def, List.drop_drop]

/-! ## Writing -/

private theorem write_of_hasRoom {log : TrafficLog} {part : Bytes}
    (hasRoom : HasRoom log.room [part]) :
    log.write part = (true, log.extended 1 part) := by
  cases room : log.room with
  | none => simp [write, extended, room, roomBehind]
  | some rooms =>
      rw [room] at hasRoom
      have fits : part.length ≤ rooms.headD 0 := hasRoom.1
      simp only [write, extended, room, roomBehind, fits,
        List.take_of_length_le fits, decide_true, Option.map_some,
        List.drop_one]

private theorem write_of_not_hasRoom {log : TrafficLog} {part : Bytes}
    (noRoom : ¬ HasRoom log.room [part]) :
    ∃ piece, piece <+: part ∧
      log.write part = (false, log.extended 1 piece) := by
  cases room : log.room with
  | none => simp [room, HasRoom] at noRoom
  | some rooms =>
      have short : ¬ part.length ≤ rooms.headD 0 :=
        fun fits => noRoom (by rw [room]; exact ⟨fits, trivial⟩)
      refine ⟨part.take (rooms.headD 0), List.take_prefix _ _, ?_⟩
      simp only [write, extended, room, roomBehind, short, decide_false,
        Option.map_some, List.drop_one]

private theorem writeParts_of_hasRoom (log : TrafficLog) {parts : List Bytes}
    (hasRoom : HasRoom log.room parts) :
    log.writeParts parts =
      (true, log.extended parts.length parts.flatten) := by
  induction parts generalizing log with
  | nil => simp [writeParts, extended, roomBehind]
  | cons part parts ih =>
      obtain ⟨first, others⟩ := hasRoom_cons.mp hasRoom
      rw [writeParts, write_of_hasRoom first]
      simp only [ih (log.extended 1 part) others, extended_extended,
        List.flatten_cons, List.length_cons, Nat.add_comm 1]

/-- Parts that do not all fit leave a beginning of what they make up. -/
private theorem writeParts_of_not_hasRoom
    (log : TrafficLog) {parts : List Bytes}
    (noRoom : ¬ HasRoom log.room parts) :
    ∃ writes piece, piece <+: parts.flatten ∧
      log.writeParts parts = (false, log.extended writes piece) := by
  induction parts generalizing log with
  | nil => exact absurd hasRoom_nil noRoom
  | cons part parts ih =>
      by_cases first : HasRoom log.room [part]
      · have others : ¬ HasRoom (roomBehind 1 log.room) parts :=
          fun others => noRoom (hasRoom_cons.mpr ⟨first, others⟩)
        obtain ⟨writes, piece, isPrefix, written⟩ :=
          ih (log.extended 1 part) others
        refine ⟨1 + writes, part ++ piece, ?_, ?_⟩
        · exact (List.prefix_append_right_inj part).mpr isPrefix
        · rw [writeParts, write_of_hasRoom first, ← extended_extended]
          exact written
      · obtain ⟨piece, isPrefix, written⟩ := write_of_not_hasRoom first
        refine ⟨1, piece, isPrefix.trans (List.prefix_append _ _), ?_⟩
        rw [writeParts, written]

/-! ## Entries -/

/-- The log after a transfer. -/
def add (log : TrafficLog) (transfer : Transfer) : TrafficLog :=
  log.record transfer.direction transfer.bytes

/-- The log after one transfer behind the other. -/
def addAll (log : TrafficLog) (transfers : List Transfer) : TrafficLog :=
  transfers.foldl add log

theorem record_eq_addAll {log : TrafficLog} {direction : Direction}
    {bytes : Bytes} :
    log.record direction bytes =
      log.addAll (Transfer.of? direction bytes).toList := by
  by_cases nonempty : bytes ≠ []
  · simp [Transfer.of?, nonempty, addAll, add]
  · have empty : bytes = [] := not_not.mp nonempty
    simp [Transfer.of?, empty, addAll, record]

private theorem add_of_closed {log : TrafficLog} {transfer : Transfer}
    (closed : log.isOpen = false) : log.add transfer = log := by
  simp [add, record, closed]

private theorem addAll_of_closed {log : TrafficLog} {transfers : List Transfer}
    (closed : log.isOpen = false) : log.addAll transfers = log := by
  induction transfers with
  | nil => rfl
  | cons transfer transfers ih =>
      rw [addAll, List.foldl_cons, add_of_closed closed]
      exact ih

theorem writeEntry_eq {log : TrafficLog} {transfer : Transfer} :
    log.writeEntry transfer.direction transfer.bytes =
      log.writeParts transfer.parts :=
  rfl

private theorem add_of_hasRoom {log : TrafficLog} {transfer : Transfer}
    (isOpen : log.isOpen = true) (hasRoom : HasRoom log.room transfer.parts) :
    log.add transfer = log.extended transfer.parts.length transfer.entry := by
  simp [add, record, isOpen, transfer.nonempty, writeEntry_eq,
    writeParts_of_hasRoom log hasRoom]

/-- An entry that cannot be written whole closes the log. -/
private theorem add_of_not_hasRoom {log : TrafficLog} {transfer : Transfer}
    (isOpen : log.isOpen = true)
    (noRoom : ¬ HasRoom log.room transfer.parts) :
    ∃ writes piece, piece <+: transfer.entry ∧
      log.add transfer =
        { log.extended writes piece with isOpen := false } := by
  obtain ⟨writes, piece, isPrefix, written⟩ :=
    writeParts_of_not_hasRoom log noRoom
  rw [transfer.flatten_parts] at isPrefix
  refine ⟨writes, piece, isPrefix, ?_⟩
  simp [add, record, isOpen, transfer.nonempty, writeEntry_eq, written]

/-! ## What a log holds -/

/-- What has become of a log after some transfers.  Either there was room for
all of them, or the log was closed in the middle of one and took no notice of
the others. -/
inductive Copies (log : TrafficLog) (transfers : List Transfer) :
    TrafficLog → Prop where
  | complete {after : TrafficLog}
      (isOpen : after.isOpen = true)
      (hasRoom : HasRoom log.room (transfers.flatMap Transfer.parts))
      (content :
        after.content = log.content ++ transfers.flatMap Transfer.entry) :
      Copies log transfers after
  | cut {after : TrafficLog} (whole lost : List Transfer) {failed : Transfer}
      {piece : Bytes}
      (closed : after.isOpen = false)
      (inOrder : transfers = whole ++ failed :: lost)
      (hasRoom : HasRoom log.room (whole.flatMap Transfer.parts))
      (noRoom :
        ¬ HasRoom log.room ((whole ++ [failed]).flatMap Transfer.parts))
      (isPrefix : piece <+: failed.entry)
      (content :
        after.content =
          log.content ++ whole.flatMap Transfer.entry ++ piece) :
      Copies log transfers after

theorem Copies.cons {log after : TrafficLog} {transfer : Transfer}
    {transfers : List Transfer}
    (hasRoom : HasRoom log.room transfer.parts)
    (copies :
      Copies (log.extended transfer.parts.length transfer.entry) transfers
        after) :
    Copies log (transfer :: transfers) after := by
  cases copies with
  | complete isOpen others content =>
      refine .complete isOpen ?_ ?_
      · rw [List.flatMap_cons]
        exact (hasRoom_append _ _).mpr ⟨hasRoom, others⟩
      · simpa [extended] using content
  | cut whole lost closed inOrder others noRoom isPrefix content =>
      refine .cut (transfer :: whole) lost closed ?_ ?_ ?_ isPrefix ?_
      · rw [inOrder, List.cons_append]
      · rw [List.flatMap_cons]
        exact (hasRoom_append _ _).mpr ⟨hasRoom, others⟩
      · intro all
        rw [List.cons_append, List.flatMap_cons] at all
        exact noRoom ((hasRoom_append _ _).mp all).2
      · simpa [extended] using content

theorem addAll_copies {log : TrafficLog} {transfers : List Transfer}
    (isOpen : log.isOpen = true) :
    Copies log transfers (log.addAll transfers) := by
  induction transfers generalizing log with
  | nil => exact .complete isOpen hasRoom_nil (by simp [addAll])
  | cons transfer transfers ih =>
      rw [addAll, List.foldl_cons]
      by_cases hasRoom : HasRoom log.room transfer.parts
      · rw [add_of_hasRoom isOpen hasRoom]
        exact .cons hasRoom (ih isOpen)
      · obtain ⟨writes, piece, isPrefix, added⟩ :=
          add_of_not_hasRoom isOpen hasRoom
        -- The log is closed, so what follows leaves it alone.
        have last : (log.add transfer).addAll transfers = log.add transfer :=
          addAll_of_closed (by rw [added])
        rw [addAll] at last
        rw [last, added]
        refine .cut [] transfers rfl rfl hasRoom_nil ?_ isPrefix ?_
        · simpa using hasRoom
        · simp [extended]

-- The third entry would fit, but the second one closed the log.
example :
    ((fresh (some [4, 1, 1, 4, 0, 4, 1, 1])).addAll
      [⟨.incoming, [0x61], by decide⟩, ⟨.outgoing, [0x62], by decide⟩,
        ⟨.incoming, [0x63], by decide⟩]).content =
      Direction.incoming.marker ++ [0x61, 0x0A] ++
        Direction.outgoing.marker :=
  rfl

end TrafficLog

/-! ## Conversations -/

/-- How a connection in state `σ` answers what is asked of it. -/
abbrev Exchange (σ α β : Type) : Type := α → σ → β × σ

namespace Exchange

variable {σ α β : Type}

/-- Asks for one thing after the other. -/
def run (exchange : Exchange σ α β) : List α → σ → List β × σ
  | [], state => ([], state)
  | call :: calls, state =>
    let (answer, next) := exchange call state
    let (answers, last) := exchange.run calls next
    (answer :: answers, last)

end Exchange

/-- The transfers that calls and their answers tell of. -/
def transfers {α β : Type} (moved? : α → β → Option Transfer)
    (calls : List α) (answers : List β) : List Transfer :=
  (List.zipWith moved? calls answers).reduceOption

section

variable {σ α β : Type} {plain : Exchange σ α β}
  {logged : Exchange (σ × TrafficLog) α β} {moved? : α → β → Option Transfer}

/-- Each call is answered as without a log, and the log gets what the answer
tells of. -/
def Shadows (logged : Exchange (σ × TrafficLog) α β)
    (plain : Exchange σ α β) (moved? : α → β → Option Transfer) : Prop :=
  ∀ call state log,
    let (answer, next) := plain call state
    logged call (state, log) =
      (answer, next, log.addAll (moved? call answer).toList)

theorem Shadows.run (shadows : Shadows logged plain moved?) (calls : List α)
    (state : σ) (log : TrafficLog) :
    let (answers, last) := plain.run calls state
    logged.run calls (state, log) =
      (answers, last, log.addAll (transfers moved? calls answers)) := by
  induction calls generalizing state log with
  | nil => rfl
  | cons call calls ih =>
      simp only [Exchange.run, shadows call state log]
      rw [ih]
      cases moved : moved? call (plain call state).1 <;>
        simp [transfers, TrafficLog.addAll, moved]

end

/-! ## Both kinds of connections -/

namespace Stream

inductive Call where
  | read (buffer : Bytes)
  | write (bytes : Bytes)
  | flush

inductive Answer (ε : Type) where
  | read (result : Except ε Nat) (after : Bytes)
  | write (result : Except ε Nat)
  | flush (result : Except ε Unit)

variable {σ ε : Type}

def exchange (stream : Stream σ ε) : Exchange σ Call (Answer ε)
  | .read buffer, state =>
    let (result, after, next) := stream.read buffer state
    (.read result after, next)
  | .write bytes, state => (stream.write bytes state).map .write id
  | .flush, state => (stream.flush state).map .flush id

/-- What a call moved, by its answer. -/
def moved? : Call → Answer ε → Option Transfer
  | .read _, .read (.ok count) after =>
    Transfer.of? .incoming (counted after count)
  | .write bytes, .write (.ok count) =>
    Transfer.of? .outgoing (counted bytes count)
  | _, _ => none

end Stream

namespace LanguageServer.PolledStream

inductive Call where
  | read (buffer : ReadBuffer)
  | write (bytes : Bytes)
  | flush
  | shutdown

inductive Answer (ε : Type) where
  | read (poll : Poll (Except ε Unit)) (after : ReadBuffer)
  | write (poll : Poll (Except ε Nat))
  | flush (poll : Poll (Except ε Unit))
  | shutdown (poll : Poll (Except ε Unit))

variable {σ ε : Type}

def exchange (stream : PolledStream σ ε) : Exchange σ Call (Answer ε)
  | .read buffer, state =>
    let (poll, after, next) := stream.read buffer state
    (.read poll after, next)
  | .write bytes, state => (stream.write bytes state).map .write id
  | .flush, state => (stream.flush state).map .flush id
  | .shutdown, state => (stream.shutdown state).map .shutdown id

/-- What a call moved, by its answer. -/
def moved? : Call → Answer ε → Option Transfer
  | .read before, .read (.ready (.ok ())) after =>
    Transfer.of? .incoming (after.filled.drop before.filled.length)
  | .write bytes, .write (.ready (.ok count)) =>
    Transfer.of? .outgoing (Stream.counted bytes count)
  | _, _ => none

end LanguageServer.PolledStream

end TealTools

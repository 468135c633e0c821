import TealTools.Proofs.TrafficLog

/-!
# What passes over a pipe

A pipe hands out what was put into it and keeps what is written to it.  What is
done over a pipe is done in the same way over one with a log, and the log takes
down everything that passes.
-/

namespace TealTools

/-- The bytes that passed in one direction. -/
def Transfer.bytesOf (direction : Direction) (transfers : List Transfer) :
    Bytes :=
  (transfers.filter (·.direction = direction)).flatMap Transfer.bytes

@[simp] theorem Transfer.bytesOf_nil (direction : Direction) :
    Transfer.bytesOf direction [] = [] :=
  rfl

@[simp] theorem Transfer.bytesOf_append (direction : Direction)
    (first second : List Transfer) :
    Transfer.bytesOf direction (first ++ second) =
      Transfer.bytesOf direction first ++
        Transfer.bytesOf direction second := by
  simp [Transfer.bytesOf]

@[simp] theorem Transfer.bytesOf_of? (direction other : Direction)
    (bytes : Bytes) :
    Transfer.bytesOf direction (Transfer.of? other bytes).toList =
      if other = direction then bytes else [] := by
  by_cases empty : bytes = []
  · simp [Transfer.of?, empty, Transfer.bytesOf]
  · by_cases same : other = direction <;>
      simp [Transfer.of?, empty, Transfer.bytesOf, same]

namespace Pipe

/-- What the transfers took in is missing at the front, and what they gave out
was added at the end. -/
structure Passes (before : Pipe) (transfers : List Transfer)
    (after : Pipe) : Prop where
  incoming : before.incoming =
    Transfer.bytesOf .incoming transfers ++ after.incoming
  outgoing : after.outgoing =
    before.outgoing ++ Transfer.bytesOf .outgoing transfers

/-- What is done over a pipe is done in the same way over one with a log, which
takes down the transfers. -/
def Echoes {α : Type} (plain : Pipe → α × Pipe)
    (logged : Pipe × TrafficLog → α × Pipe × TrafficLog) : Prop :=
  ∀ pipe log, ∃ transfers,
    logged (pipe, log) =
        ((plain pipe).1, (plain pipe).2, log.addAll transfers) ∧
      pipe.Passes transfers (plain pipe).2

/-- The same for what has no result. -/
def EchoesOn (plain : Pipe → Pipe)
    (logged : Pipe × TrafficLog → Pipe × TrafficLog) : Prop :=
  Echoes (fun pipe => ((), plain pipe)) fun state => ((), logged state)

theorem Passes.nothing (pipe : Pipe) : pipe.Passes [] pipe :=
  ⟨rfl, (List.append_nil _).symm⟩

theorem Passes.trans {first second third : Pipe}
    {early late : List Transfer} (before : first.Passes early second)
    (behind : second.Passes late third) :
    first.Passes (early ++ late) third := by
  constructor
  · rw [before.incoming, behind.incoming, Transfer.bytesOf_append,
      List.append_assoc]
  · rw [behind.outgoing, before.outgoing, Transfer.bytesOf_append,
      List.append_assoc]

namespace Echoes

variable {α β : Type} {plain : Pipe → α × Pipe}
  {logged : Pipe × TrafficLog → α × Pipe × TrafficLog}

theorem pure (value : α) : Echoes (fun pipe => (value, pipe)) (value, ·) :=
  fun pipe _ => ⟨[], rfl, .nothing pipe⟩

theorem bind {next : α → Pipe → β × Pipe}
    {nextLogged : α → Pipe × TrafficLog → β × Pipe × TrafficLog}
    (first : Echoes plain logged)
    (second : ∀ value, Echoes (next value) (nextLogged value)) :
    Echoes (fun pipe => next (plain pipe).1 (plain pipe).2)
      fun state => nextLogged (logged state).1 (logged state).2 := by
  intro pipe log
  obtain ⟨early, begun, before⟩ := first pipe log
  obtain ⟨late, ended, behind⟩ :=
    second (plain pipe).1 (plain pipe).2 (log.addAll early)
  refine ⟨early ++ late, ?_, before.trans behind⟩
  have added : log.addAll (early ++ late) =
      (log.addAll early).addAll late := List.foldl_append
  simp only [begun, added]
  exact ended

theorem map (first : Echoes plain logged) (change : α → β) :
    Echoes (fun pipe => (change (plain pipe).1, (plain pipe).2))
      fun state => (change (logged state).1, (logged state).2) :=
  first.bind fun value => pure (change value)

end Echoes

theorem EchoesOn.foldl {α : Type} {plain : Pipe → α → Pipe}
    {logged : Pipe × TrafficLog → α → Pipe × TrafficLog}
    (each : ∀ item, EchoesOn (plain · item) (logged · item))
    (items : List α) :
    EchoesOn (items.foldl plain) (items.foldl logged) := by
  induction items with
  | nil => exact .pure ()
  | cons item items ih => exact (each item).bind fun _ => ih

/-! ## Transfers -/

@[simp] theorem receive_stream (room : Nat) (pipe : Pipe) :
    Pipe.stream.receive room pipe =
      (pipe.incoming.take room,
        { pipe with incoming := pipe.incoming.drop room }) := by
  simp [Stream.receive, stream, Stream.counted]

theorem echoes_receive (room : Nat) :
    Echoes (Pipe.stream.receive room)
      ((Pipe.stream.logged .incoming .outgoing).receive room) := by
  intro pipe log
  refine ⟨(Transfer.of? .incoming (pipe.incoming.take room)).toList, ?_, ?_⟩
  · rw [receive_stream]
    simp [Stream.receive, Stream.logged, stream, Stream.counted,
      TrafficLog.record_eq_addAll]
  · constructor <;> simp

@[simp] theorem send_stream (pieces : List Bytes) (pipe : Pipe) :
    Pipe.stream.send pieces pipe =
      { pipe with outgoing := pipe.outgoing ++ pieces.flatten } := by
  change pieces.foldl (fun pipe piece => (Pipe.stream.write piece pipe).2)
    pipe = _
  induction pieces generalizing pipe with
  | nil => simp
  | cons piece pieces ih =>
      rw [List.foldl_cons, ih, List.flatten_cons, ← List.append_assoc]
      rfl

theorem echoesOn_write (bytes : Bytes) :
    EchoesOn (fun pipe => (Pipe.stream.write bytes pipe).2) fun state =>
      ((Pipe.stream.logged .incoming .outgoing).write bytes state).2 := by
  intro pipe log
  refine ⟨(Transfer.of? .outgoing bytes).toList, ?_, ?_⟩
  · simp [Stream.logged, stream, Stream.counted, TrafficLog.record_eq_addAll]
  · constructor <;> simp [stream]

theorem echoesOn_send (pieces : List Bytes) :
    EchoesOn (Pipe.stream.send pieces)
      ((Pipe.stream.logged .incoming .outgoing).send pieces) :=
  .foldl echoesOn_write pieces

end Pipe

namespace LanguageServer

open Pipe

@[simp] theorem receive_pipe (room : Nat) (state : Pipe) :
    pipe.receive room state =
      (state.incoming.take room,
        { state with incoming := state.incoming.drop room }) := by
  simp [PolledStream.receive, pipe]

@[simp] theorem send_pipe (bytes : Bytes) (state : Pipe) :
    pipe.send bytes state =
      { state with outgoing := state.outgoing ++ bytes } :=
  rfl

theorem echoes_receive (room : Nat) :
    Echoes (pipe.receive room)
      ((pipe.logged .incoming .outgoing).receive room) := by
  intro state log
  refine ⟨(Transfer.of? .incoming (state.incoming.take room)).toList, ?_, ?_⟩
  · rw [receive_pipe]
    simp [PolledStream.receive, PolledStream.logged, pipe,
      TrafficLog.record_eq_addAll]
  · constructor <;> simp

theorem echoesOn_send (bytes : Bytes) :
    EchoesOn (pipe.send bytes)
      ((pipe.logged .incoming .outgoing).send bytes) := by
  intro state log
  refine ⟨(Transfer.of? .outgoing bytes).toList, ?_, ?_⟩
  · simp [PolledStream.send, PolledStream.logged, pipe, Stream.counted,
      TrafficLog.record_eq_addAll]
  · constructor <;> simp

end LanguageServer

end TealTools

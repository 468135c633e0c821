import Mathlib.Algebra.GroupWithZero.Nat
import TealTools.Debugger.Dialogue
import TealTools.Proofs.Debugger.Frame
import TealTools.Proofs.Pipe

/-!
# Requests that come in piece by piece

However the input is cut, a session handles the requests that it would handle
if all of the input were there at once.  A log beside the connection changes
nothing about this and takes down what passes.
-/

namespace TealTools.Debugger

/-! ## Settled input -/

namespace Frame

private theorem isLine_cons
    {byte : UInt8} {line : Bytes} (other : byte ≠ 0x0A) :
    isLine (byte :: line) = isLine line := by
  cases line with
  | nil => simp [isLine, other]
  | cons next line => simp [isLine]

/-- A line that is there whole stays as it is. -/
private theorem splitLine_append_of_isLine {input : Bytes}
    (whole : isLine (splitLine input).1 = true) (more : Bytes) :
    splitLine (input ++ more) =
      ((splitLine input).1, (splitLine input).2 ++ more) := by
  induction input with
  | nil => cases whole
  | cons byte rest induction =>
      rw [List.cons_append, splitLine, splitLine]
      by_cases feed : byte = 0x0A
      · rw [if_pos feed, if_pos feed]
      · rw [splitLine, if_neg feed, isLine_cons feed] at whole
        rw [if_neg feed, if_neg feed, induction whole]

private theorem ne_nil_of_isLine {line : Bytes} (whole : isLine line = true) :
    line ≠ [] := by
  rintro rfl
  cases whole

private theorem next_of_unreadable {input line rest : Bytes}
    (split : splitLine input = (line, rest)) (written : line ≠ [])
    (unread : Text.ofUtf8? line = none) :
    next input = .error .inputOutput := by
  cases line with
  | nil => exact absurd rfl written
  | cons byte bytes => simp only [next, split, unread]

private theorem next_of_unannounced {input line rest : Bytes} {text : List Char}
    {cause : ServeError} (split : splitLine input = (line, rest))
    (written : line ≠ []) (read : Text.ofUtf8? line = some text)
    (failed : contentLength text = .error cause) :
    next input = .error cause := by
  cases line with
  | nil => exact absurd rfl written
  | cons byte bytes => simp only [next, split, read, failed]

private theorem body_of_unreadable {length : Nat} {input line rest : Bytes}
    (split : splitLine input = (line, rest)) (written : line ≠ [])
    (unread : Text.ofUtf8? line = none) :
    body length input = .error .inputOutput := by
  cases line with
  | nil => exact absurd rfl written
  | cons byte bytes =>
      simp only [body, split, unread, Option.isNone_none, true_or, if_true]

/-- Input that is settled gives one error or one body, whatever comes in behind
it. -/
theorem settles_of_isSettled {input : Bytes}
    (settled : isSettled input = true) :
    (∃ cause, ∀ more, next (input ++ more) = .error cause) ∨
      ∃ content rest, ∀ more,
        next (input ++ more) = .ok (some (content, rest ++ more)) := by
  rcases first : splitLine input with ⟨line, behind⟩
  simp only [isSettled, first, Bool.and_eq_true] at settled
  obtain ⟨whole, settled⟩ := settled
  have split : ∀ more, splitLine (input ++ more) = (line, behind ++ more) := by
    intro more
    rw [splitLine_append_of_isLine (by rw [first]; exact whole), first]
  have written := ne_nil_of_isLine whole
  cases read : Text.ofUtf8? line with
  | none =>
      exact .inl ⟨_, fun more => next_of_unreadable (split more) written read⟩
  | some header =>
      rw [read] at settled
      cases announced : contentLength header with
      | error cause =>
          exact .inl ⟨cause, fun more =>
            next_of_unannounced (split more) written read announced⟩
      | ok length =>
          rcases second : splitLine behind with ⟨blank, rest⟩
          simp only [announced, second, Bool.and_eq_true, Bool.or_eq_true,
            decide_eq_true_eq] at settled
          obtain ⟨ended, enough⟩ := settled
          have next_eq : ∀ more, next (input ++ more) =
              body length (behind ++ more) := fun more =>
            next_of_line (split more) written read announced
          have splits : ∀ more,
              splitLine (behind ++ more) = (blank, rest ++ more) := by
            intro more
            rw [splitLine_append_of_isLine (by rw [second]; exact ended),
              second]
          have nonempty := ne_nil_of_isLine ended
          cases decoded : Text.ofUtf8? blank with
          | none =>
              refine .inl ⟨.inputOutput, fun more => (next_eq more).trans ?_⟩
              exact body_of_unreadable (splits more) nonempty decoded
          | some text =>
              simp only [decoded, Option.isNone_some, Bool.false_eq_true,
                false_or] at enough
              refine .inr ⟨rest.take length, rest.drop length, fun more =>
                (next_eq more).trans ?_⟩
              have parts : splitLine (behind ++ more) =
                  (blank, rest.take length ++ (rest.drop length ++ more)) := by
                rw [splits, ← List.append_assoc, List.take_append_drop]
              have taken := body_of_line parts nonempty decoded
              rw [List.length_take_of_le enough] at taken
              exact taken

theorem next_append {input : Bytes} (settled : isSettled input = true)
    (more : Bytes) :
    next (input ++ more) = (next input).map
      (Option.map fun (content, rest) => (content, rest ++ more)) := by
  rcases settles_of_isSettled settled with
    ⟨cause, fails⟩ | ⟨content, rest, gives⟩
  · have alone := fails []
    rw [List.append_nil] at alone
    rw [fails, alone]
    rfl
  · have alone := gives []
    rw [List.append_nil, List.append_nil] at alone
    rw [gives, alone]
    rfl

theorem next_ne_none {input : Bytes} (settled : isSettled input = true) :
    next input ≠ .ok none := by
  rcases settles_of_isSettled settled with
    ⟨cause, fails⟩ | ⟨content, rest, gives⟩
  · have alone := fails []
    rw [List.append_nil] at alone
    simp [alone]
  · have alone := gives []
    rw [List.append_nil] at alone
    simp [alone]

end Frame

/-! ## Serving in pieces -/

namespace Service

variable {environment : Environment} {service : Service}
  {input content rest : Bytes} {request : Request}

private theorem run_of_error {cause : ServeError}
    (failed : Frame.next input = .error cause) :
    run environment service [] input = (service, .error cause) := by
  rw [run]
  split
  · rename_i again
    cases failed.symm.trans again
    rfl
  · rename_i again
    cases failed.symm.trans again
  · rename_i again
    cases failed.symm.trans again

private theorem run_of_content
    (taken : Frame.next input = .ok (some (content, rest))) :
    run environment service [] input =
      match Frame.request content with
      | .error cause => (service, .error cause)
      | .ok request =>
        match service.handle environment request with
        | (false, after) => (after, .error .inputOutput)
        | (true, after) =>
          if Adapter.endsSession request.command then (after, .ok ())
          else run environment after [] rest := by
  rw [run]
  split
  · rename_i again
    cases taken.symm.trans again
  · rename_i again
    cases taken.symm.trans again
  · rename_i again
    cases taken.symm.trans again
    rfl

/-- What comes in behind a request is left for the requests after it. -/
private theorem run_append (settled : Frame.isSettled input = true)
    (taken : Frame.next input = .ok (some (content, rest))) (more : Bytes) :
    run environment service [] (input ++ more) =
      match Frame.request content with
      | .error cause => (service, .error cause)
      | .ok request =>
        match service.handle environment request with
        | (false, after) => (after, .error .inputOutput)
        | (true, after) =>
          if Adapter.endsSession request.command then (after, .ok ())
          else run environment after [] (rest ++ more) := by
  have behind := Frame.next_append settled more
  rw [taken] at behind
  exact run_of_content behind

/-- A console without lines is like no console. -/
private theorem run_blank (environment : Environment) (service : Service)
    (input : Bytes) :
    run environment service [[]] input = run environment service [] input := by
  rw [run, run]
  rfl

end Service

namespace Dialogue

section

variable {environment : Environment} {dialogue : Dialogue}

/-- How the session ends if the given bytes are all that still comes in. -/
def outcome (environment : Environment) (dialogue : Dialogue)
    (more : Bytes) : Service × Except ServeError Unit :=
  match dialogue.ending with
  | some result => (dialogue.service, result)
  | none => dialogue.service.run environment [] (dialogue.buffer ++ more)

/-- How the session has ended. -/
def result? (dialogue : Dialogue) :
    Option (Service × Except ServeError Unit) :=
  dialogue.ending.map (dialogue.service, ·)

theorem outcome_drain (environment : Environment) (service : Service)
    (buffer more : Bytes) :
    (drain environment service buffer).outcome environment more =
      service.run environment [] (buffer ++ more) := by
  fun_induction drain environment service buffer with
  | case1 service buffer waiting => rfl
  | case2 service buffer settled cause failed =>
      have behind := Frame.next_append (by simpa using settled) more
      rw [failed] at behind
      exact (Service.run_of_error behind).symm
  | case3 service buffer settled ended =>
      exact absurd ended (Frame.next_ne_none (by simpa using settled))
  | case4 service buffer settled content rest taken cause undecoded =>
      rw [Service.run_append (by simpa using settled) taken, undecoded]
      rfl
  | case5 service buffer settled content rest taken request decoded after
      handled =>
      rw [Service.run_append (by simpa using settled) taken, decoded]
      simp only [handled]
      rfl
  | case6 service buffer settled content rest taken request decoded after
      handled final =>
      rw [Service.run_append (by simpa using settled) taken, decoded]
      simp only [handled, if_pos final]
      rfl
  | case7 service buffer settled content rest taken request decoded after
      handled goesOn induction =>
      rw [Service.run_append (by simpa using settled) taken, decoded]
      simp only [handled, if_neg goesOn]
      exact induction

@[simp] theorem outcome_receive (bytes more : Bytes) :
    (dialogue.receive environment bytes).outcome environment more =
      dialogue.outcome environment (bytes ++ more) := by
  rw [receive]
  cases ended : dialogue.ending with
  | some result => simp [outcome, ended]
  | none =>
      rw [Option.isSome_none, if_neg Bool.false_ne_true, outcome_drain]
      simp [outcome, ended]

theorem outcome_fresh (environment : Environment) (adapter : Adapter)
    (input : Bytes) :
    (fresh adapter).outcome environment input =
      Service.serve environment adapter none [] input := by
  rw [Service.serve, Service.run_blank]
  rfl

@[simp] theorem result?_close :
    (dialogue.close environment).result? =
      some (dialogue.outcome environment []) := by
  cases ended : dialogue.ending with
  | some result => simp [close, result?, outcome, ended]
  | none => simp [close, result?, outcome, ended]

theorem result?_of_ended (ended : dialogue.ending.isSome = true)
    (more : Bytes) :
    dialogue.result? = some (dialogue.outcome environment more) := by
  obtain ⟨result, ended⟩ := Option.isSome_iff_exists.mp ended
  simp [result?, outcome, ended]

end

end Dialogue

/-! ## Arrivals -/

namespace Outbox

variable {outbox : Outbox}

private theorem sum_writes (filled : Nat) (parts : List Nat) :
    (writes filled parts).sum = filled + parts.sum := by
  fun_induction writes filled parts with
  | case1 => rfl
  | case2 filled some => simp
  | case3 filled part parts fits induction =>
      rw [induction, List.sum_cons, Nat.add_assoc]
  | case4 filled part parts overflows small induction =>
      rw [List.sum_cons, induction, List.sum_cons]
  | case5 filled part parts overflows large induction =>
      simp [induction]

theorem flatten_cut {sizes : List Nat} {bytes : Bytes}
    (whole : sizes.sum = bytes.length) : (cut sizes bytes).flatten = bytes := by
  induction sizes generalizing bytes with
  | nil => exact (List.length_eq_zero_iff.mp whole.symm).symm
  | cons size sizes induction =>
      rw [List.sum_cons] at whole
      rw [cut, List.flatten_cons, induction, List.take_append_drop]
      rw [List.length_drop]
      omega

/-- The pieces of a message make it up. -/
@[simp] theorem flatten_pieces (seq : Nat) (message : Message) :
    (pieces seq message).flatten = frame seq message := by
  apply flatten_cut
  have ended : (Text.utf8 "\r\n".toList).length = 2 := by decide +kernel
  rw [sum_writes, frame, Framing.framed]
  simp only [parts, List.sum_cons, List.sum_nil, List.length_append, ended]
  omega

private theorem arrived_deliver (sizes : List Nat) :
    (outbox.deliver sizes).2.arrived = outbox.arrived := by
  induction sizes generalizing outbox with
  | nil => rfl
  | cons size sizes induction =>
      rw [deliver]
      split
      · exact induction
      · rfl

private theorem arrived_send_grows (message : Message) :
    outbox.arrived <+: (outbox.send message).2.arrived := by
  have kept := @arrived_deliver { outbox with count := outbox.count + 1 }
    (writes 0 (parts (outbox.count + 1) message))
  simp only [send]
  split
  · rename_i after delivered
    rw [delivered] at kept
    exact ⟨_, congrArg (· ++ _) kept.symm⟩
  · rename_i after delivered
    rw [delivered] at kept
    exact ⟨[], (List.append_nil _).trans kept.symm⟩

private theorem arrived_sendAll_grows (messages : List Message) :
    outbox.arrived <+: (outbox.sendAll messages).2.arrived := by
  induction messages generalizing outbox with
  | nil => exact List.prefix_rfl
  | cons message messages induction =>
      have first := @arrived_send_grows outbox message
      rw [sendAll]
      split
      · rename_i after sent
        rw [sent] at first
        exact first.trans induction
      · rename_i after sent
        rw [sent] at first
        exact first

private theorem arrived_sendLines_grows (lines : List String) :
    outbox.arrived <+: (outbox.sendLines lines).arrived := by
  induction lines generalizing outbox with
  | nil => exact List.prefix_rfl
  | cons line lines induction =>
      rw [sendLines, List.foldl_cons]
      exact (arrived_send_grows (.event (.output line))).trans induction

end Outbox

namespace Service

theorem arrived_handle_grows {environment : Environment}
    {service after : Service} {request : Request} {arrived : Bool}
    (handled : service.handle environment request = (arrived, after)) :
    service.outbox.arrived <+: after.outbox.arrived := by
  cases handled
  exact Outbox.arrived_sendAll_grows _

theorem arrived_run_grows (environment : Environment) (service : Service)
    (console : List (List String)) (input : Bytes) :
    service.outbox.arrived <+:
      (service.run environment console input).1.outbox.arrived := by
  have forwarded : ∀ (service : Service) (lines : List String),
      service.outbox.arrived <+: (service.forward lines).outbox.arrived :=
    fun service => Outbox.arrived_sendLines_grows
  fun_induction run environment service console input with
  | case1 | case2 | case3 => exact forwarded _ _
  | case4 service console input waiting content rest taken request decoded
      after handled =>
      exact (forwarded _ _).trans (arrived_handle_grows handled)
  | case5 service console input waiting content rest taken request decoded
      after handled answered final =>
      have early := (forwarded _ _).trans (arrived_handle_grows handled)
      exact early.trans (forwarded _ _)
  | case6 service console input waiting content rest taken request decoded
      after handled answered goesOn induction =>
      have early := (forwarded _ _).trans (arrived_handle_grows handled)
      exact (early.trans (forwarded _ _)).trans induction

end Service

namespace Dialogue

section

variable {environment : Environment} {dialogue : Dialogue}

theorem arrived_drain_grows (environment : Environment) (service : Service)
    (buffer : Bytes) :
    service.outbox.arrived <+:
      (drain environment service buffer).service.outbox.arrived := by
  fun_induction drain environment service buffer with
  | case1 | case2 | case3 | case4 => exact List.prefix_rfl
  | case5 service buffer settled content rest taken request decoded after
      handled =>
      exact Service.arrived_handle_grows handled
  | case6 service buffer settled content rest taken request decoded after
      handled =>
      exact Service.arrived_handle_grows handled
  | case7 service buffer settled content rest taken request decoded after
      handled goesOn induction =>
      exact (Service.arrived_handle_grows handled).trans induction

theorem arrived_receive_grows (bytes : Bytes) :
    dialogue.service.outbox.arrived <+:
      (dialogue.receive environment bytes).service.outbox.arrived := by
  rw [receive]
  split
  · exact List.prefix_rfl
  · exact arrived_drain_grows _ _ _

theorem arrived_close_grows :
    dialogue.service.outbox.arrived <+:
      (dialogue.close environment).service.outbox.arrived := by
  rw [close]
  split
  · exact List.prefix_rfl
  · exact Service.arrived_run_grows _ _ _ _

end

/-! ## Conversing over a pipe -/

/-- Messages as they stand on a connection. -/
def written (messages : List (Nat × Message)) : Bytes :=
  messages.flatMap fun sent => Outbox.frame sent.1 sent.2

theorem sendAll_pipe (messages : List (Nat × Message)) (pipe : Pipe) :
    sendAll Pipe.stream messages pipe =
      { pipe with outgoing := pipe.outgoing ++ written messages } := by
  induction messages generalizing pipe with
  | nil => simp [sendAll, written]
  | cons message messages induction =>
      have later := induction
        (Pipe.stream.send (Outbox.pieces message.1 message.2) pipe)
      rw [sendAll] at later ⊢
      rw [List.foldl_cons, later, Pipe.send_stream, Outbox.flatten_pieces]
      simp [written]

theorem written_since {before after : Dialogue}
    (kept : before.service.outbox.arrived <+: after.service.outbox.arrived) :
    written before.service.outbox.arrived ++ written (before.since after) =
      written after.service.outbox.arrived := by
  rw [written, written, ← List.flatMap_append, since,
    List.prefix_iff_eq_append.mp kept, written]

/-- What is written are the messages that arrived. -/
theorem outgoing_converse (environment : Environment) (dialogue : Dialogue)
    (rooms : List Nat) (pipe : Pipe)
    (sent : pipe.outgoing = written dialogue.service.outbox.arrived) :
    let (last, final) := dialogue.converse Pipe.stream environment pipe rooms
    final.outgoing = written last.service.outbox.arrived := by
  induction rooms generalizing dialogue pipe with
  | nil =>
      rw [converse, sendAll_pipe]
      dsimp only
      rw [sent, written_since arrived_close_grows]
  | cons room rooms induction =>
      rw [converse]
      by_cases ended : dialogue.ending.isSome = true
      · rw [if_pos ended]
        exact sent
      · rw [if_neg ended, Pipe.receive_stream]
        dsimp only
        rw [sendAll_pipe]
        apply induction
        dsimp only
        rw [sent, written_since (arrived_receive_grows _)]

/-- However the input is cut, the session ends as if all of it were there at
once. -/
theorem result?_converse (environment : Environment) (dialogue : Dialogue)
    (pieces : List Bytes) (pipe : Pipe)
    (incoming : pipe.incoming = pieces.flatten) :
    (dialogue.converse Pipe.stream environment pipe
        (pieces.map List.length)).1.result? =
      some (dialogue.outcome environment pieces.flatten) := by
  induction pieces generalizing dialogue pipe with
  | nil => exact result?_close
  | cons piece pieces induction =>
      rw [List.map_cons, converse]
      by_cases ended : dialogue.ending.isSome = true
      · rw [if_pos ended]
        exact result?_of_ended ended _
      · have received : Pipe.stream.receive piece.length pipe =
            (piece, { pipe with incoming := pieces.flatten }) := by
          rw [Pipe.receive_stream, incoming, List.flatten_cons,
            List.take_left, List.drop_left]
        rw [if_neg ended, received, List.flatten_cons, ← outcome_receive]
        dsimp only
        rw [sendAll_pipe]
        exact induction _ _ rfl

theorem echoes_converse (environment : Environment) (dialogue : Dialogue)
    (rooms : List Nat) :
    Pipe.Echoes
      (fun pipe => dialogue.converse Pipe.stream environment pipe rooms)
      fun state =>
        dialogue.converse (Pipe.stream.logged .incoming .outgoing) environment
          state rooms := by
  have sends : ∀ messages, Pipe.EchoesOn (sendAll Pipe.stream messages)
      (sendAll (Pipe.stream.logged .incoming .outgoing) messages) :=
    fun messages => .foldl (fun _ => Pipe.echoesOn_send _) messages
  induction rooms generalizing dialogue with
  | nil => exact (sends _).map fun _ => dialogue.close environment
  | cons room rooms induction =>
      simp only [converse]
      by_cases ended : dialogue.ending.isSome = true
      · simp only [if_pos ended]
        exact .pure dialogue
      · have goesOn : ∀ bytes, Pipe.Echoes
            (fun pipe =>
              let after := dialogue.receive environment bytes
              after.converse Pipe.stream environment
                (sendAll Pipe.stream (dialogue.since after) pipe) rooms)
            fun state =>
              let after := dialogue.receive environment bytes
              let stream := Pipe.stream.logged .incoming .outgoing
              after.converse stream environment
                (sendAll stream (dialogue.since after) state) rooms :=
          fun bytes => (sends _).bind fun _ => induction _
        simp only [if_neg ended]
        exact (Pipe.echoes_receive room).bind goesOn

end Dialogue

end TealTools.Debugger

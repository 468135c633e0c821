import TealTools.Debugger.Service
import TealTools.Proofs.Debugger.Agreement
import TealTools.Proofs.Debugger.Frame

/-!
# Serving a session

Every request up to the one that disconnects is answered once, in the order of
the requests.  The events of a request stand right behind its answer.  Lines
for the debug console come in between and change nothing about this.
-/

namespace TealTools.Debugger

def Event.isConsole : Event → Bool
  | output _ => true
  | _ => false

def Message.isConsole : Message → Bool
  | event happened => happened.isConsole
  | _ => false

/-- The number of the request that a message answers. -/
def Message.answered? : Message → Option Int
  | success seq _ _ => some seq
  | failure seq _ => some seq
  | event _ => none

/-! ## Sending without a limit -/

namespace Outbox

/-- What arrived, apart from lines for the debug console. -/
def replies (outbox : Outbox) : List Message :=
  (outbox.arrived.map Prod.snd).filter fun message => !message.isConsole

/-- Messages have arrived in addition, and the output still takes
everything. -/
structure Gains (before : Outbox) (messages : List Message)
    (after : Outbox) : Prop where
  unlimited : after.limit = none
  arrived : after.arrived.map Prod.snd =
    before.arrived.map Prod.snd ++ messages

section

variable {outbox : Outbox}

theorem Gains.nothing (unlimited : outbox.limit = none) :
    outbox.Gains [] outbox :=
  ⟨unlimited, (List.append_nil _).symm⟩

theorem Gains.trans {middle last : Outbox} {first second : List Message}
    (gains : outbox.Gains first middle) (more : middle.Gains second last) :
    outbox.Gains (first ++ second) last := by
  constructor
  · exact more.unlimited
  · rw [more.arrived, gains.arrived, List.append_assoc]

private theorem deliver_of_unlimited (unlimited : outbox.limit = none)
    (sizes : List Nat) :
    ∃ taken, outbox.deliver sizes = (true, { outbox with taken }) := by
  induction sizes generalizing outbox with
  | nil => exact ⟨outbox.taken, rfl⟩
  | cons size sizes induction =>
      have takes : outbox.takes = true := by
        rw [takes, unlimited, Option.all_none]
      rw [deliver, if_pos takes]
      exact @induction { outbox with taken := outbox.taken + size } unlimited

theorem gains_send (unlimited : outbox.limit = none) (message : Message) :
    ∃ after, outbox.send message = (true, after) ∧
      outbox.Gains [message] after := by
  obtain ⟨taken, delivered⟩ := @deliver_of_unlimited
    { outbox with count := outbox.count + 1 } unlimited
    (writes 0 (parts (outbox.count + 1) message))
  refine ⟨{ outbox with
      count := outbox.count + 1
      taken
      arrived := outbox.arrived ++ [(outbox.count + 1, message)] }, ?_, ?_⟩
  · simp only [send, delivered]
  · exact ⟨unlimited, List.map_append⟩

theorem gains_sendAll (unlimited : outbox.limit = none)
    (messages : List Message) :
    ∃ after, outbox.sendAll messages = (true, after) ∧
      outbox.Gains messages after := by
  induction messages generalizing outbox with
  | nil => exact ⟨outbox, rfl, .nothing unlimited⟩
  | cons message messages induction =>
      obtain ⟨middle, first, gains⟩ := gains_send unlimited message
      obtain ⟨last, later, more⟩ := induction gains.unlimited
      refine ⟨last, ?_, gains.trans more⟩
      rw [sendAll.eq_def]
      simp only [first]
      exact later

theorem gains_sendLines (unlimited : outbox.limit = none)
    (lines : List String) :
    outbox.Gains (lines.map fun line => .event (.output line))
      (outbox.sendLines lines) := by
  induction lines generalizing outbox with
  | nil => exact .nothing unlimited
  | cons line lines induction =>
      obtain ⟨middle, sent, gains⟩ :=
        gains_send unlimited (.event (.output line))
      have more := induction gains.unlimited
      rw [sendLines, List.foldl_cons, sent]
      exact gains.trans more

theorem Gains.replies {after : Outbox} {messages : List Message}
    (gains : outbox.Gains messages after) :
    after.replies = outbox.replies ++
      messages.filter fun message => !message.isConsole := by
  rw [Outbox.replies, gains.arrived, List.filter_append]
  rfl

theorem replies_sendLines (unlimited : outbox.limit = none)
    (lines : List String) :
    (outbox.sendLines lines).replies = outbox.replies := by
  rw [(gains_sendLines unlimited lines).replies]
  simp [Message.isConsole, Event.isConsole]

end

end Outbox

/-! ## Answers -/

/-- A request that was carried out is answered by a success and its events,
one that was refused by a failure alone. -/
inductive Answers (request : Request) :
    Except AdapterError Reply → List Message → Prop where
  | success (reply : Reply) :
      Answers request (.ok reply)
        (.success request.seq request.command.name reply.body ::
          reply.events.map .event)
  | failure (cause : AdapterError) :
      Answers request (.error cause) [.failure request.seq cause.message]

private theorem answers_messages (outcome : Outcome) (request : Request) :
    Answers request outcome.result (outcome.messages request) := by
  rw [Outcome.messages]
  cases outcome.result with
  | ok reply => exact .success reply
  | error cause => exact .failure cause

theorem Answers.answered {request : Request}
    {result : Except AdapterError Reply} {block : List Message}
    (answers : Answers request result block) :
    block.filterMap Message.answered? = [request.seq] := by
  cases answers with
  | success reply =>
      simp [List.filterMap_map, Function.comp_def, Message.answered?]
  | failure cause => rfl

namespace Adapter

section

variable {environment : Environment} {adapter : Adapter} {event : Event}

theorem Runs.isConsole {result : Adapter × List Event}
    (runs : adapter.Runs result) (member : event ∈ result.2) :
    event.isConsole = false := by
  rcases runs.reports with ended | ⟨reason, pc, stopped⟩
  · rw [ended, List.mem_singleton] at member
    rw [member]
    rfl
  · rw [stopped, List.mem_singleton] at member
    rw [member]
    rfl

private theorem isConsole_of_startIfReady
    (member : event ∈ adapter.startIfReady.2) :
    event.isConsole = false := by
  by_cases launched : adapter.isLaunched = true
  · by_cases configured : adapter.configured = true
    · exact (runs_startIfReady launched configured).isConsole member
    · rw [startIfReady_of_waiting (Bool.eq_false_iff.mpr configured)] at member
      cases member
  · rw [startIfReady_of_unlaunched (Bool.eq_false_iff.mpr launched)] at member
    cases member

private theorem isConsole_of_mem_events {command : Command} {reply : Reply}
    (accepted : (adapter.execute environment command).result = .ok reply)
    (member : event ∈ reply.events) : event.isConsole = false := by
  by_cases executes : adapter.executes command = true
  · cases command with
    | launch arguments =>
        obtain ⟨loaded, sent, loads⟩ := loads_of_accepted accepted
        rw [loads.execute] at accepted
        cases accepted
        exact isConsole_of_startIfReady member
    | configurationDone =>
        rw [execute_configurationDone_eq] at accepted
        cases accepted
        exact isConsole_of_startIfReady member
    | resume =>
        cases launched : adapter.replay with
        | none =>
            simp only [Adapter.execute, launched] at accepted
            cases accepted
        | some replay =>
            simp only [Adapter.execute, launched] at accepted
            cases accepted
            exact (runs_runToBreakpoint launched).isConsole member
    | next => exact (@runs_of_move _ .stepInto _ accepted).isConsole member
    | stepIn => exact (@runs_of_move _ .stepInto _ accepted).isConsole member
    | stepOut => exact (@runs_of_move _ .stepOut _ accepted).isConsole member
    | _ => cases executes
  · have idle := Bool.eq_false_iff.mpr executes
    rw [ready_of_not_executes idle accepted event member]
    rfl

end

end Adapter

theorem Answers.isConsole {environment : Environment} {adapter : Adapter}
    {request : Request} {block : List Message}
    (answers : Answers request
      (adapter.execute environment request.command).result block) :
    ∀ message ∈ block, message.isConsole = false := by
  intro message member
  generalize accepted :
    (adapter.execute environment request.command).result = result at answers
  cases answers with
  | success reply =>
      rcases List.mem_cons.mp member with rfl | behind
      · rfl
      · obtain ⟨event, listed, rfl⟩ := List.mem_map.mp behind
        exact Adapter.isConsole_of_mem_events accepted listed
  | failure cause =>
      rw [List.mem_singleton.mp member]
      rfl

/-! ## Conversations -/

def turnsOf (environment : Environment) (requests : List Request) :
    List Turn :=
  requests.map fun request => ⟨environment, request.command⟩

/-- The requests up to the one that disconnects. -/
def served : List Request → List Request
  | [] => []
  | request :: requests =>
    if Adapter.endsSession request.command then [request]
    else request :: served requests

/-- Blocks of messages answer requests one after the other. -/
inductive Conversation (environment : Environment) :
    Adapter → List Request → List (List Message) → Prop where
  | nil (adapter : Adapter) : Conversation environment adapter [] []
  | cons {adapter : Adapter} {request : Request} {requests : List Request}
      {block : List Message} {blocks : List (List Message)}
      (answers : Answers request
        (adapter.execute environment request.command).result block)
      (later : Conversation environment
        (adapter.execute environment request.command).adapter requests
        blocks) :
      Conversation environment adapter (request :: requests)
        (block :: blocks)

namespace Conversation

variable {environment : Environment} {adapter : Adapter}
  {requests : List Request} {blocks : List (List Message)}

theorem length_eq
    (conversation : Conversation environment adapter requests blocks) :
    blocks.length = requests.length := by
  induction conversation with
  | nil => rfl
  | cons answers later induction =>
      rw [List.length_cons, List.length_cons, induction]

theorem answered
    (conversation : Conversation environment adapter requests blocks) :
    blocks.flatten.filterMap Message.answered? =
      requests.map Request.seq := by
  induction conversation with
  | nil => rfl
  | cons answers later induction =>
      rw [List.flatten_cons, List.filterMap_append, answers.answered,
        induction, List.map_cons, List.singleton_append]

private theorem block_of_request
    (conversation : Conversation environment adapter requests blocks)
    {position : Nat} {request : Request}
    (found : requests[position]? = some request) :
    ∃ block, blocks[position]? = some block ∧
      Answers request
        ((adapter.after (turnsOf environment (requests.take position))).execute
          environment request.command).result block := by
  induction conversation generalizing position with
  | nil => cases found
  | cons answers later induction =>
      cases position with
      | zero =>
          cases found
          exact ⟨_, rfl, answers⟩
      | succ position => exact induction found

end Conversation

/-! ## The loop -/

namespace Service

section

variable {environment : Environment} {service : Service}
  {console : List (List String)} {input content rest : Bytes}
  {request : Request}

private theorem run_of_end (ended : Frame.next input = .ok none) :
    run environment service console input =
      (service.forward (console.headD []), .ok ()) := by
  rw [run]
  split
  · rename_i failed
    cases ended.symm.trans failed
  · rfl
  · rename_i taken
    cases ended.symm.trans taken

private theorem run_of_request {after : Service}
    (taken : Frame.next input = .ok (some (content, rest)))
    (decoded : Frame.request content = .ok request)
    (handled : (service.forward (console.headD [])).handle environment
      request = (true, after)) :
    run environment service console input =
      if Adapter.endsSession request.command then
        (after.forward (console.tail.headD []), .ok ())
      else
        run environment (after.forward (console.tail.headD []))
          (console.drop 2) rest := by
  rw [run]
  split
  · rename_i failed
    cases taken.symm.trans failed
  · rename_i ended
    cases taken.symm.trans ended
  · rename_i again
    cases taken.symm.trans again
    simp only [decoded, handled]

/-- The adapter and the requests to nodes behind a request, and what arrived
for it. -/
structure Handles (environment : Environment) (before : Service)
    (request : Request) (block : List Message) (after : Service) : Prop where
  answers : Answers request
    (before.adapter.execute environment request.command).result block
  adapter : after.adapter =
    (before.adapter.execute environment request.command).adapter
  sent : after.sent = before.sent ++
    (before.adapter.execute environment request.command).sent
  unlimited : after.outbox.limit = none
  replies : after.outbox.replies = before.outbox.replies ++ block

theorem handles_of_unlimited (unlimited : service.outbox.limit = none)
    (early late : List String) (request : Request) :
    ∃ after block,
      (service.forward early).handle environment request = (true, after) ∧
        Handles environment service request block (after.forward late) := by
  let outcome := service.adapter.execute environment request.command
  have queued := Outbox.gains_sendLines unlimited early
  have answers : Answers request outcome.result (outcome.messages request) :=
    answers_messages outcome request
  have spoken : ∀ message ∈ outcome.messages request,
      (!message.isConsole) = true := by
    intro message member
    rw [answers.isConsole message member]
    rfl
  obtain ⟨outbox, arrived, gains⟩ := Outbox.gains_sendAll queued.unlimited
    (outcome.messages request)
  have handled : (service.forward early).handle environment request =
      (true, ⟨outcome.adapter, outbox, service.sent ++ outcome.sent⟩) := by
    simp only [handle, forward]
    rw [arrived]
  refine ⟨_, outcome.messages request, handled, answers, rfl, rfl, ?_, ?_⟩
  · exact (Outbox.gains_sendLines gains.unlimited late).unlimited
  · rw [forward, Outbox.replies_sendLines gains.unlimited, gains.replies,
      List.filter_eq_self.mpr spoken, Outbox.replies_sendLines unlimited]

/-- Serving without a limit goes on to the disconnection or to the end of the
input, and leaves one block of messages for each request. -/
theorem converses_run {requests : List Request}
    (unlimited : service.outbox.limit = none)
    (delivered : Delivers input requests rest)
    (stops : Frame.next rest = .ok none ∨
      ∃ request ∈ requests, Adapter.endsSession request.command = true) :
    ∃ after blocks,
      run environment service console input = (after, .ok ()) ∧
        Conversation environment service.adapter (served requests) blocks ∧
        after.outbox.replies = service.outbox.replies ++ blocks.flatten ∧
        after.adapter =
          service.adapter.after (turnsOf environment (served requests)) ∧
        after.sent = service.sent ++
          (service.adapter.outcomes
            (turnsOf environment (served requests))).flatMap
              Outcome.sent := by
  induction delivered generalizing service console with
  | nothing rest =>
      have ended : Frame.next rest = .ok none := by
        rcases stops with ended | ⟨request, member, -⟩
        · exact ended
        · cases member
      refine ⟨_, [], run_of_end ended, .nil _, ?_, rfl, ?_⟩
      · rw [forward, Outbox.replies_sendLines unlimited, List.flatten_nil,
          List.append_nil]
      · exact (List.append_nil _).symm
  | @request input content later rest request requests taken decoded behind
      induction =>
      obtain ⟨after, block, handled, handles⟩ := handles_of_unlimited
        unlimited (console.headD []) (console.tail.headD []) request
      have step := run_of_request taken decoded handled
      by_cases final : Adapter.endsSession request.command = true
      · rw [if_pos final] at step
        refine ⟨_, [block], step, ?_, ?_, ?_, ?_⟩
        · rw [served, if_pos final]
          exact .cons handles.answers (.nil _)
        · rw [handles.replies, List.flatten_singleton]
        · rw [served, if_pos final]
          exact handles.adapter
        · rw [served, if_pos final, handles.sent]
          simp only [turnsOf, List.map_cons, List.map_nil, Adapter.outcomes,
            List.flatMap_cons, List.flatMap_nil, List.append_nil]
          rfl
      · rw [if_neg final] at step
        have remains : Frame.next rest = .ok none ∨ ∃ request ∈ requests,
            Adapter.endsSession request.command = true := by
          rcases stops with ended | ⟨last, member, ends⟩
          · exact .inl ended
          · rcases List.mem_cons.mp member with rfl | listed
            · exact absurd ends final
            · exact .inr ⟨last, listed, ends⟩
        obtain ⟨last, blocks, run, conversation, replies, adapter, sent⟩ :=
          @induction (after.forward (console.tail.headD []))
            (console.drop 2) handles.unlimited remains
        rw [handles.adapter] at conversation adapter sent
        refine ⟨last, block :: blocks, step.trans run, ?_, ?_, ?_, ?_⟩
        · rw [served, if_neg final]
          exact .cons handles.answers conversation
        · rw [replies, handles.replies, List.flatten_cons,
            List.append_assoc]
        · rw [served, if_neg final]
          exact adapter
        · rw [served, if_neg final, sent, handles.sent, List.append_assoc]
          rfl

end

end Service

/-- Requests that are delivered to a service are answered one after the other
up to the one that disconnects.  The answer to a request has its number and
says whether the adapter behind all earlier requests carries it out; its
events stand right behind it.  Nothing behind the disconnection has an
effect, and a refused request does not keep later ones from being served. -/
theorem requests_are_answered_in_order (environment : Environment)
    (adapter : Adapter) (console : List (List String)) (input rest : Bytes)
    (requests : List Request) (delivered : Delivers input requests rest)
    (stops : Frame.next rest = .ok none ∨
      ∃ request ∈ requests, Adapter.endsSession request.command = true) :
    ∃ (service : Service) (blocks : List (List Message)),
      Service.run environment (.fresh adapter none) console input =
          (service, .ok ()) ∧
        service.outbox.replies = blocks.flatten ∧
        service.outbox.replies.filterMap Message.answered? =
          (served requests).map Request.seq ∧
        blocks.length = (served requests).length ∧
        (∀ position request, (served requests)[position]? = some request →
          ∃ block, blocks[position]? = some block ∧
            Answers request
              ((adapter.after (turnsOf environment
                ((served requests).take position))).execute environment
                  request.command).result block) ∧
        service.adapter =
          adapter.after (turnsOf environment (served requests)) ∧
        service.sent = (adapter.outcomes
          (turnsOf environment (served requests))).flatMap Outcome.sent := by
  obtain ⟨service, blocks, run, conversation, replies, final, sent⟩ :=
    @Service.converses_run environment (.fresh adapter none) console input
      rest requests rfl delivered stops
  have output : service.outbox.replies = blocks.flatten := replies
  refine ⟨service, blocks, run, output, ?_, conversation.length_eq, ?_,
    final, sent⟩
  · rw [output]
    exact conversation.answered
  · intro position request found
    exact conversation.block_of_request found

def requestBody (seq : Nat) (command : String) (arguments : Json) : Bytes :=
  Text.utf8 (Json.write (.obj [("seq", .nat seq), ("command", .str command),
    ("arguments", arguments)]))

/-- A request that is refused, one that disconnects, and one behind it. -/
def abandonedBodies : List Bytes :=
  [requestBody 1 "next" (.obj [("threadId", .nat 1)]),
    requestBody 2 "disconnect" (.obj []), requestBody 3 "threads" .null]

private theorem exists_request {content : Bytes} {check : Request → Bool}
    (decodes : (Frame.request content).toOption.any check = true) :
    ∃ request, Frame.request content = .ok request ∧
      check request = true := by
  cases decoded : Frame.request content with
  | error cause =>
      rw [decoded] at decodes
      cases decodes
  | ok request =>
      rw [decoded] at decodes
      exact ⟨request, rfl, decodes⟩

theorem requests_are_answered_in_order_abandoned :
    ∃ requests, Delivers (abandonedBodies.flatMap Framing.framed) requests [] ∧
      requests.map Request.seq = [1, 2, 3] ∧
      Frame.next [] = .ok none ∧
      ∃ service, Service.run recordedEnvironment
          (.fresh recordedSession.adapter none) [["waiting"], [], ["late"]]
          (abandonedBodies.flatMap Framing.framed) = (service, .ok ()) ∧
        service.outbox.replies.filterMap Message.answered? = [1, 2] := by
  obtain ⟨first, decodedFirst, plain⟩ := @exists_request
    (requestBody 1 "next" (.obj [("threadId", .nat 1)]))
    (fun request => request.seq = 1 && !Adapter.endsSession request.command)
    (by decide +kernel)
  obtain ⟨second, decodedSecond, ends⟩ := @exists_request
    (requestBody 2 "disconnect" (.obj []))
    (fun request => request.seq = 2 && Adapter.endsSession request.command)
    (by decide +kernel)
  obtain ⟨third, decodedThird, behind⟩ := @exists_request
    (requestBody 3 "threads" .null) (fun request => request.seq = 3)
    (by decide +kernel)
  simp only [Bool.and_eq_true, decide_eq_true_eq, Bool.not_eq_true']
    at plain ends behind
  have decoded : List.Forall₂ (fun content request =>
      content.length < UInt64.size ∧ Frame.request content = .ok request)
      abandonedBodies [first, second, third] :=
    .cons ⟨by decide +kernel, decodedFirst⟩
      (.cons ⟨by decide +kernel, decodedSecond⟩
        (.cons ⟨by decide +kernel, decodedThird⟩ .nil))
  have delivered := delivers_framed decoded []
  rw [List.append_nil] at delivered
  obtain ⟨service, blocks, run, -, answered, -⟩ :=
    requests_are_answered_in_order recordedEnvironment recordedSession.adapter
      [["waiting"], [], ["late"]] _ [] [first, second, third] delivered
      (.inl rfl)
  refine ⟨[first, second, third], delivered, ?_, rfl, service, run, ?_⟩
  · simp only [List.map_cons, List.map_nil, plain.1, ends.1, behind]
  · rw [answered]
    simp [served, plain, ends]

/-- A session is served in the same way; its lines for the console wait at the
start. -/
theorem serve_answers_in_order (environment : Environment)
    (adapter : Adapter) (lines : List String) (input rest : Bytes)
    (requests : List Request) (delivered : Delivers input requests rest)
    (stops : Frame.next rest = .ok none ∨
      ∃ request ∈ requests, Adapter.endsSession request.command = true) :
    ∃ (service : Service) (blocks : List (List Message)),
      Service.serve environment adapter none lines input =
          (service, .ok ()) ∧
        service.outbox.replies = blocks.flatten ∧
        service.outbox.replies.filterMap Message.answered? =
          (served requests).map Request.seq ∧
        Conversation environment adapter (served requests) blocks ∧
        service.adapter =
          adapter.after (turnsOf environment (served requests)) ∧
        service.sent = (adapter.outcomes
          (turnsOf environment (served requests))).flatMap Outcome.sent := by
  obtain ⟨service, blocks, run, conversation, replies, final, sent⟩ :=
    @Service.converses_run environment (.fresh adapter none) [lines] input
      rest requests rfl delivered stops
  have output : service.outbox.replies = blocks.flatten := replies
  refine ⟨service, blocks, run, output, ?_, conversation, final, sent⟩
  rw [output]
  exact conversation.answered

end TealTools.Debugger

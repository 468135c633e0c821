import TealTools.Proofs.Debugger.SetUp

/-!
# Inspection does not influence execution

An editor asks for threads, frames, variables and values as often as its
panels need them.  Such requests leave the adapter alone, so that a history
without some of them has the same answers to all others and the same end.
-/

namespace TealTools.Debugger

/-- Commands that only look at the adapter, and those that are never carried
out. -/
def Command.inspects : Command → Bool
  | capabilities => true
  | setExceptionBreakpoints => true
  | threads => true
  | stackTrace => true
  | scopes => true
  | inspect _ => true
  | evaluate _ => true
  | idle _ => true
  | _ => false

/-- The items at the positions that are kept. -/
def remaining {α : Type} (kept : Nat → Bool) : List α → List α
  | [] => []
  | item :: items =>
    (if kept 0 then [item] else []) ++
      remaining (fun position => kept (position + 1)) items

private theorem remaining_cons_of_kept {α : Type} {kept : Nat → Bool}
    (here : kept 0 = true) (item : α) (items : List α) :
    remaining kept (item :: items) =
      item :: remaining (fun position => kept (position + 1)) items := by
  rw [remaining, if_pos here, List.singleton_append]

private theorem remaining_cons_of_dropped {α : Type} {kept : Nat → Bool}
    (here : kept 0 = false) (item : α) (items : List α) :
    remaining kept (item :: items) =
      remaining (fun position => kept (position + 1)) items := by
  rw [remaining, here, if_neg Bool.false_ne_true, List.nil_append]

/-- Who inspects changes nothing and asks no node. -/
theorem Adapter.answer_of_inspects {adapter : Adapter} {turn : Turn}
    (inspects : turn.command.inspects = true) :
    (adapter.answer turn).adapter = adapter ∧
      (adapter.answer turn).sent = [] := by
  obtain ⟨environment, command⟩ := turn
  cases command with
  | evaluate expression =>
      rw [answer, execute_evaluate]
      exact ⟨rfl, rfl⟩
  | launch arguments => cases inspects
  | setBreakpoints source breakpoints => cases inspects
  | configurationDone => cases inspects
  | resume => cases inspects
  | next => cases inspects
  | stepIn => cases inspects
  | stepOut => cases inspects
  | disconnect => cases inspects
  | _ => exact ⟨rfl, rfl⟩

/-- Whichever inspections are left out of a history, the other requests have
the same outcomes, nodes are asked the same, and the adapter is the same in
the end. -/
theorem inspection_leaves_execution (adapter : Adapter)
    (history : List Turn) (kept : Nat → Bool)
    (executing : ∀ position (within : position < history.length),
      kept position = false → history[position].command.inspects = true) :
    adapter.outcomes (remaining kept history) =
        remaining kept (adapter.outcomes history) ∧
      (adapter.outcomes (remaining kept history)).flatMap Outcome.sent =
        (adapter.outcomes history).flatMap Outcome.sent ∧
      adapter.after (remaining kept history) = adapter.after history := by
  induction history generalizing adapter kept with
  | nil => exact ⟨rfl, rfl, rfl⟩
  | cons turn turns induction =>
      have first : kept 0 = false → turn.command.inspects = true :=
        executing 0 (Nat.zero_lt_succ _)
      -- The rest of the history is run from the adapter behind this turn.
      obtain ⟨outcomes, sent, after⟩ := induction (adapter.answer turn).adapter
        (fun position => kept (position + 1))
        (fun position within =>
          executing (position + 1) (Nat.succ_lt_succ within))
      cases here : kept 0 with
      | true =>
          rw [remaining_cons_of_kept here, Adapter.outcomes,
            Adapter.outcomes, remaining_cons_of_kept here, Adapter.after,
            Adapter.after, List.flatMap_cons, List.flatMap_cons, sent, outcomes,
            after]
          exact ⟨rfl, rfl, rfl⟩
      | false =>
          obtain ⟨still, silent⟩ :=
            @Adapter.answer_of_inspects adapter turn (first here)
          rw [still] at outcomes sent after
          rw [remaining_cons_of_dropped here, Adapter.outcomes,
            remaining_cons_of_dropped here, Adapter.after, List.flatMap_cons,
            silent, List.nil_append, still]
          exact ⟨outcomes, sent, after⟩

/-- An editor that polls between the requests of its set-up. -/
def polledSetUp : List Turn :=
  [.capabilities, .launch (.obj [("program", .str "p")]), .stackTrace,
    .setBreakpoints .null [⟨2, none⟩], .evaluate "stack[0]",
    .configurationDone, .inspect stackReference].map
      (Turn.mk recordedEnvironment)

theorem inspection_leaves_execution_polledSetUp :
    (recordedSession.adapter.outcomes polledSetUp).map Outcome.events =
        [[.ready], [], [], [], [], [.stopped .breakpoint 3], []] ∧
      recordedSession.adapter.outcomes
          (launchFirst.map (Turn.mk recordedEnvironment)) =
        remaining (fun position => position % 2 = 1)
          (recordedSession.adapter.outcomes polledSetUp) ∧
      recordedSession.adapter.after
          (launchFirst.map (Turn.mk recordedEnvironment)) =
        recordedSession.adapter.after polledSetUp := by
  obtain ⟨outcomes, -, after⟩ := inspection_leaves_execution
    recordedSession.adapter polledSetUp (fun position => position % 2 = 1)
    (by decide +kernel)
  exact ⟨by decide +kernel, outcomes, after⟩

end TealTools.Debugger

import TealTools.Proofs.Debugger.Position

/-!
# Single steps and shortcuts

Single steps visit every opcode of a trace once, in order.  Stepping out and
resuming are shortcuts: each of them ends where single steps end that are
repeated up to the same place, and answers what the last of them answers.
-/

namespace TealTools.Debugger.Replay

/-- Moves lead from the start of the segments to this replay. -/
def Reachable (segments : List Segment) (replay : Replay) : Prop :=
  ∃ moves, replay = (ofSegments segments).run moves

/-- The replay behind a number of single steps. -/
def stepped (replay : Replay) (count : Nat) : Replay :=
  replay.run (List.replicate count .stepInto)

/-- Single steps are repeated, at least one, until the replay meets a
condition.  The outcome is that of the last step. -/
inductive StepsUntil (met : Replay → Prop) :
    Replay → Nat → Bool × Replay → Prop where
  | last {replay : Replay} :
      met replay.stepInto.2 → StepsUntil met replay 1 replay.stepInto
  | more {replay : Replay} {count : Nat} {outcome : Bool × Replay} :
      ¬ met replay.stepInto.2 →
      StepsUntil met replay.stepInto.2 count outcome →
      StepsUntil met replay (count + 1) outcome

/-- The program counter of the next opcode satisfies a condition. -/
def StandsAt (stopAt : UInt64 → Bool) (replay : Replay) : Prop :=
  ∃ pc, replay.pc? = some pc ∧ stopAt pc = true

/-- What single steps do that are repeated from the start of segments. -/
structure VisitsEach (segments : List Segment) : Prop where
  /-- The opcodes come in the order of the trace. -/
  inOrder : ∀ count, ((ofSegments segments).stepped count).current? =
    (traceOf segments)[count]?
  /-- Each place in a segment is visited once, behind the opcodes in front of
  it. -/
  once : ∀ index segment step,
    (keptSegments segments)[index]? = some segment →
    step < segment.steps.length →
    ∀ count,
      ((ofSegments segments).stepped count).segment = index ∧
          ((ofSegments segments).stepped count).step = step ↔
        count = stepCount ((keptSegments segments).take index) + step
  /-- The last opcode is the first one on which a step answers false. -/
  answers : ∀ count,
    ((ofSegments segments).stepped count).stepInto.1 = true ↔
      count + 1 < (traceOf segments).length

/-! ## Repeated steps -/

theorem StepsUntil.unique {met : Replay → Prop} {replay : Replay}
    {count other : Nat} {first second : Bool × Replay}
    (steps : StepsUntil met replay count first)
    (others : StepsUntil met replay other second) : first = second := by
  induction steps generalizing other with
  | last reached =>
      cases others with
      | last => rfl
      | more missed _ => exact absurd reached missed
  | more missed _ induction =>
      cases others with
      | last reached => exact absurd reached missed
      | more _ others => exact induction others

theorem exists_stepsUntil_iff {met : Replay → Prop} {replay : Replay}
    {bound : Nat} {expected : Bool × Replay}
    (steps : ∃ count ≤ bound, StepsUntil met replay count expected)
    (outcome : Bool × Replay) :
    (∃ count ≤ bound, StepsUntil met replay count outcome) ↔
      outcome = expected := by
  constructor
  · rintro ⟨_, _, others⟩
    obtain ⟨_, _, steps⟩ := steps
    exact others.unique steps
  · rintro rfl
    exact steps

theorem stepInto_of_current? {replay : Replay} {effect : OpcodeEffect}
    (current : replay.current? = some effect) :
    replay.stepInto =
      (!(replay.execute effect).isFinished, replay.execute effect) := by
  rw [stepInto, current]

private theorem stepsUntil_last {met : Replay → Prop} {replay : Replay}
    {effect : OpcodeEffect} (current : replay.current? = some effect)
    (reached : met (replay.execute effect)) :
    ∃ count ≤ replay.remaining, StepsUntil met replay count
      (!(replay.execute effect).isFinished, replay.execute effect) := by
  have fewer := remaining_execute_lt current
  have step := stepInto_of_current? current
  refine ⟨1, by omega, ?_⟩
  rw [← step]
  exact .last (by rwa [step])

private theorem stepsUntil_more {met : Replay → Prop} {replay : Replay}
    {effect : OpcodeEffect} {outcome : Bool × Replay}
    (current : replay.current? = some effect)
    (missed : ¬ met (replay.execute effect))
    (steps : ∃ count ≤ (replay.execute effect).remaining,
      StepsUntil met (replay.execute effect) count outcome) :
    ∃ count ≤ replay.remaining, StepsUntil met replay count outcome := by
  have fewer := remaining_execute_lt current
  have step := stepInto_of_current? current
  obtain ⟨count, bound, steps⟩ := steps
  refine ⟨count + 1, by omega, .more ?_ ?_⟩
  · rwa [step]
  · rwa [step]

/-! ## Stepping out -/

private theorem current?_of_inside {replay : Replay} {segment : Segment}
    (found : replay.currentSegment? = some segment)
    (inside : replay.step < segment.steps.length) :
    replay.current? = some segment.steps[replay.step] := by
  rw [current?, found, Option.bind_some, List.getElem?_eq_getElem inside]

private theorem isFinished_of_current? {replay : Replay} {effect : OpcodeEffect}
    (current : replay.current? = some effect) : replay.isFinished = false := by
  rw [isFinished, current, Option.isNone_some]

theorem stepOut_of_current? {replay : Replay} {effect : OpcodeEffect}
    (current : replay.current? = some effect) :
    replay.stepOut =
      (!(replay.enter (replay.segment + 1)).isFinished,
        replay.enter (replay.segment + 1)) := by
  rw [stepOut, isFinished_of_current? current, if_neg Bool.false_ne_true]

/-- Single steps stay in a segment up to its last opcode. -/
theorem stepsUntil_stepOut {segment : Segment} (left : Nat) {replay : Replay}
    (found : replay.currentSegment? = some segment)
    (size : segment.steps.length = replay.step + 1 + left) :
    ∃ count ≤ replay.remaining,
      StepsUntil (fun after => after.segment ≠ replay.segment) replay count
        replay.stepOut := by
  induction left generalizing replay with
  | zero =>
      have current := current?_of_inside found (by omega)
      have executed := execute_eq segment.steps[replay.step] found
      rw [if_pos (by omega)] at executed
      rw [stepOut_of_current? current, ← executed]
      apply stepsUntil_last current
      rw [executed]
      exact Nat.succ_ne_self replay.segment
  | succ left induction =>
      have more : replay.step + 1 < segment.steps.length := by omega
      have current := current?_of_inside found (by omega)
      have executed := execute_eq segment.steps[replay.step] found
      rw [if_neg (by omega)] at executed
      have same : (replay.execute segment.steps[replay.step]).segment =
          replay.segment := by rw [executed]
      have step : (replay.execute segment.steps[replay.step]).step =
          replay.step + 1 := by rw [executed]
      have here :
          (replay.execute segment.steps[replay.step]).currentSegment? =
            some segment := by
        rw [executed]
        exact found
      -- From inside the segment, stepping out leads to the same place.
      have leads : (replay.execute segment.steps[replay.step]).stepOut =
          replay.stepOut := by
        rw [stepOut_of_current? (current?_of_inside here (step ▸ more)),
          stepOut_of_current? current, executed]
        rfl
      have further := induction here (by omega)
      rw [same, leads] at further
      exact stepsUntil_more current (fun moved => moved same) further

/-! ## Resuming -/

theorem standsAt_resume_iff (stopAt : UInt64 → Bool) (replay : Replay) :
    (replay.resume stopAt).1 = true ↔
      (replay.resume stopAt).2.StandsAt stopAt := by
  rw [resume_fst]
  constructor
  · intro standing
    rcases resume_stops stopAt replay with finished | stops
    · rw [finished] at standing
      cases standing
    · exact stops
  · rintro ⟨pc, standing, _⟩
    rw [standing]
    rfl

private theorem isFinished_of_pc?_none
    {replay : Replay} (none : replay.pc? = none) :
    replay.isFinished = true := by
  rw [isFinished, Option.map_eq_none_iff.mp none]
  rfl

private theorem isFinished_of_pc? {replay : Replay} {pc : UInt64}
    (standing : replay.pc? = some pc) : replay.isFinished = false := by
  obtain ⟨effect, current, _⟩ := Option.map_eq_some_iff.mp standing
  exact isFinished_of_current? current

theorem stepsUntil_resume {replay : Replay} (stopAt : UInt64 → Bool)
    (running : replay.isFinished = false) :
    ∃ count ≤ replay.remaining,
      StepsUntil
        (fun after => after.StandsAt stopAt ∨ after.isFinished = true)
        replay count (replay.resume stopAt) := by
  fun_induction Replay.resume stopAt replay with
  | case1 replay current =>
      rw [isFinished, current] at running
      cases running
  | case2 replay effect current after none =>
      have finished := isFinished_of_pc?_none none
      have steps := @stepsUntil_last
        (fun after => after.StandsAt stopAt ∨ after.isFinished = true)
        replay effect current (.inr finished)
      rwa [finished] at steps
  | case3 replay effect current after pc standing stops =>
      have steps := @stepsUntil_last
        (fun after => after.StandsAt stopAt ∨ after.isFinished = true)
        replay effect current (.inl ⟨pc, standing, stops⟩)
      rwa [isFinished_of_pc? standing] at steps
  | case4 replay effect current after pc standing stops induction =>
      have goesOn : after.isFinished = false := isFinished_of_pc? standing
      apply stepsUntil_more current ?_ (induction goesOn)
      rintro (⟨other, same, stopped⟩ | finished)
      · rw [standing, Option.some.injEq] at same
        exact stops (same ▸ stopped)
      · rw [goesOn] at finished
        cases finished

/-! ## From the start -/

section

variable {segments : List Segment} {replay : Replay}

theorem Reachable.sound (reached : Reachable segments replay) :
    replay.Sound segments := by
  obtain ⟨moves, rfl⟩ := reached
  exact (sound_ofSegments segments).run moves

theorem stepped_succ (replay : Replay) (count : Nat) :
    replay.stepped (count + 1) = (replay.stepped count).stepInto.2 := by
  rw [stepped, List.replicate_succ', run, List.foldl_append]
  rfl

theorem sound_stepped (segments : List Segment) (count : Nat) :
    ((ofSegments segments).stepped count).Sound segments :=
  (sound_ofSegments segments).run _

theorem Sound.position_le (sound : replay.Sound segments) :
    replay.position ≤ (traceOf segments).length := by
  cases finished : replay.isFinished with
  | true => exact (sound.position_of_isFinished finished).le
  | false =>
      rw [isFinished, Option.isNone_eq_false_iff, sound.current?_eq,
        Option.isSome_iff_exists] at finished
      obtain ⟨effect, here⟩ := finished
      exact (List.getElem?_eq_some_iff.mp here).1.le

theorem Sound.position_stepInto (sound : replay.Sound segments) :
    replay.stepInto.2.position =
      min (replay.position + 1) (traceOf segments).length := by
  cases current : replay.current? with
  | none =>
      have finished := sound.position_of_isFinished
        (Option.isNone_iff_eq_none.mpr current)
      rw [Replay.stepInto, current]
      simp only
      omega
  | some effect =>
      have next := (sound.execute current).position_le
      rw [sound.position_execute current] at next
      rw [stepInto_of_current? current]
      simp only [sound.position_execute current]
      omega

theorem position_stepped (segments : List Segment) (count : Nat) :
    ((ofSegments segments).stepped count).position =
      min count (traceOf segments).length := by
  induction count with
  | zero =>
      rw [Nat.zero_min]
      rfl
  | succ count induction =>
      rw [stepped_succ, (sound_stepped segments count).position_stepInto,
        induction]
      omega

theorem current?_stepped (segments : List Segment) (count : Nat) :
    ((ofSegments segments).stepped count).current? =
      (traceOf segments)[count]? := by
  rw [(sound_stepped segments count).current?_eq, position_stepped]
  by_cases inside : count ≤ (traceOf segments).length
  · rw [Nat.min_eq_left inside]
  · rw [Nat.min_eq_right (by omega), List.getElem?_eq_none (Nat.le_refl _),
      List.getElem?_eq_none (by omega)]

private theorem stepInto_fst (replay : Replay) :
    replay.stepInto.1 = !replay.stepInto.2.isFinished := by
  cases current : replay.current? with
  | none =>
      rw [stepInto, current]
      simp [isFinished, current]
  | some effect => rw [stepInto_of_current? current]

theorem stepInto_stepped_iff (segments : List Segment) (count : Nat) :
    ((ofSegments segments).stepped count).stepInto.1 = true ↔
      count + 1 < (traceOf segments).length := by
  rw [stepInto_fst, ← stepped_succ, isFinished, current?_stepped]
  simp

/-! ## Places in segments -/

private theorem stepCount_take_succ {index : Nat} {segment : Segment}
    (found : segments[index]? = some segment) :
    stepCount (segments.take (index + 1)) =
      stepCount (segments.take index) + segment.steps.length := by
  have own : traceOf [segment] = segment.steps := List.flatMap_singleton _ _
  rw [List.take_add_one, found, Option.toList_some, stepCount_eq,
    stepCount_eq, traceOf_append, List.length_append, own]

private theorem stepCount_take_mono
    {index other : Nat} (order : index ≤ other) :
    stepCount (segments.take index) ≤ stepCount (segments.take other) := by
  have inside : segments.take index <+: segments.take other :=
    List.take_prefix_take_left order
  obtain ⟨more, split⟩ := inside
  rw [← split, stepCount_eq, stepCount_eq, traceOf_append,
    List.length_append]
  exact Nat.le_add_right _ _

/-- A position lies in one segment only. -/
private theorem place_unique {index other step place : Nat}
    {segment second : Segment}
    (found : segments[index]? = some segment)
    (inside : step < segment.steps.length)
    (also : segments[other]? = some second)
    (within : place < second.steps.length)
    (same : stepCount (segments.take index) + step =
      stepCount (segments.take other) + place) :
    index = other ∧ step = place := by
  have ends := stepCount_take_succ found
  have closes := stepCount_take_succ also
  rcases Nat.lt_trichotomy index other with before | rfl | behind
  · have := @stepCount_take_mono segments (index + 1) other before
    omega
  · exact ⟨rfl, by omega⟩
  · have := @stepCount_take_mono segments (other + 1) index behind
    omega

theorem Sound.place_iff (sound : replay.Sound segments) {index step : Nat}
    {segment : Segment}
    (found : (keptSegments segments)[index]? = some segment)
    (inside : step < segment.steps.length) :
    replay.segment = index ∧ replay.step = step ↔
      replay.position = stepCount ((keptSegments segments).take index) +
        step := by
  rw [position, sound.kept]
  constructor
  · rintro ⟨rfl, rfl⟩
    rfl
  · intro same
    cases here : (keptSegments segments)[replay.segment]? with
    | some segment =>
        exact place_unique here (sound.inside segment here).step found inside
          same
    | none =>
        -- Behind all segments there is no room for the position.
        have last : replay.segment = (keptSegments segments).length :=
          Nat.le_antisymm sound.bound (List.getElem?_eq_none_iff.mp here)
        have within := (List.getElem?_eq_some_iff.mp found).1
        have closes := stepCount_take_succ found
        have := @stepCount_take_mono (keptSegments segments) (index + 1)
          replay.segment (by omega)
        omega

private theorem stepCount_add_lt {index step : Nat} {segment : Segment}
    (found : (keptSegments segments)[index]? = some segment)
    (inside : step < segment.steps.length) :
    stepCount ((keptSegments segments).take index) + step <
      (traceOf segments).length := by
  have within := (List.getElem?_eq_some_iff.mp found).1
  have closes := stepCount_take_succ found
  have := @stepCount_take_mono (keptSegments segments) (index + 1)
    (keptSegments segments).length within
  rw [List.take_length, stepCount_eq (keptSegments segments),
    traceOf_keptSegments] at this
  omega

end

theorem visitsEach (segments : List Segment) : VisitsEach segments where
  inOrder := current?_stepped segments
  once index segment step found inside count := by
    have before := stepCount_add_lt found inside
    rw [(sound_stepped segments count).place_iff found inside,
      position_stepped]
    omega
  answers := stepInto_stepped_iff segments

/-! ## Shortcuts -/

/-- From a place in the trace, stepping out ends where single steps leave the
segment, and resuming ends where single steps first reach a stop or the end of
the trace.  Single steps from the start visit every opcode once. -/
theorem shortcuts_agree_with_steps (segments : List Segment) :
    (∀ replay, Reachable segments replay → replay.isFinished = false →
      (∀ outcome,
        (∃ count ≤ replay.remaining,
          StepsUntil (fun after => after.segment ≠ replay.segment) replay
            count outcome) ↔
          outcome = replay.stepOut) ∧
      ∀ stopAt : UInt64 → Bool,
        (∀ outcome,
          (∃ count ≤ replay.remaining,
            StepsUntil
              (fun after => after.StandsAt stopAt ∨ after.isFinished = true)
              replay count outcome) ↔
            outcome = replay.resume stopAt) ∧
        ((replay.resume stopAt).1 = true ↔
          (replay.resume stopAt).2.StandsAt stopAt)) ∧
    VisitsEach segments := by
  refine ⟨?_, visitsEach segments⟩
  intro replay reached running
  have sound := reached.sound
  constructor
  · have unfinished : replay.segment ≠ (keptSegments segments).length := by
      intro last
      rw [sound.isFinished_iff.mpr last] at running
      cases running
    have found := List.getElem?_eq_getElem
      (Nat.lt_of_le_of_ne sound.bound unfinished)
    have inside := (sound.inside _ found).step
    rw [← sound.currentSegment?_eq] at found
    exact exists_stepsUntil_iff (stepsUntil_stepOut _ found
      (Nat.add_sub_of_le inside).symm)
  · intro stopAt
    exact ⟨exists_stepsUntil_iff (stepsUntil_resume stopAt running),
      standsAt_resume_iff stopAt replay⟩

/-- Two program runs, the second of one opcode, and an empty one between
them. -/
def threeSegments : List Segment :=
  let effect (pc : UInt64) : OpcodeEffect := ⟨pc, 0, [.ofUint pc], []⟩
  [⟨"first", [effect 1, effect 3, effect 5]⟩, ⟨"empty", []⟩,
    ⟨"second", [effect 1]⟩]

/-- Behind the first opcode, with a stop in the next run. -/
theorem shortcuts_agree_with_steps_threeSegments :
    Reachable threeSegments
        ((ofSegments threeSegments).run [.stepInto]) ∧
      ((ofSegments threeSegments).run [.stepInto]).isFinished = false ∧
      (∃ count ≤ ((ofSegments threeSegments).run [.stepInto]).remaining,
        StepsUntil (fun after => after.StandsAt (· == 1) ∨
            after.isFinished = true)
          ((ofSegments threeSegments).run [.stepInto]) count
          (((ofSegments threeSegments).run [.stepInto]).resume
            (· == 1))) := by
  have reached : Reachable threeSegments
      ((ofSegments threeSegments).run [.stepInto]) := ⟨_, rfl⟩
  have running :
      ((ofSegments threeSegments).run [.stepInto]).isFinished = false := by
    decide
  refine ⟨reached, running, ?_⟩
  have agree := (shortcuts_agree_with_steps threeSegments).1 _ reached running
  exact ((agree.2 (· == 1)).1 _).mpr rfl

end TealTools.Debugger.Replay

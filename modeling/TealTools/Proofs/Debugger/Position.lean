import TealTools.Proofs.Debugger.Replay

/-!
# Positions in a trace

The opcodes of all segments, one after the other, are the trace of a replay.
A sound replay stands at one position of it, executing an opcode leads to the
next position, and resuming leads to the next one that satisfies a condition.
-/

namespace TealTools.Debugger

/-- All opcodes that were executed, in order. -/
def traceOf (segments : List Segment) : List OpcodeEffect :=
  segments.flatMap Segment.steps

/-- The opcodes from a position on whose program counter satisfies a
condition, each with its own position. -/
def stopsFrom (stopAt : UInt64 → Bool) (effects : List OpcodeEffect)
    (position : Nat) : List (OpcodeEffect × Nat) :=
  (effects.zipIdx.drop position).filter fun stop => stopAt stop.1.pc

@[simp] theorem traceOf_keptSegments (segments : List Segment) :
    traceOf (keptSegments segments) = traceOf segments := by
  induction segments with
  | nil => rfl
  | cons segment segments induction =>
      simp only [traceOf, keptSegments] at induction
      simp only [traceOf, keptSegments, List.filter_cons, List.flatMap_cons]
      split
      · rw [List.flatMap_cons, induction]
      · rename_i empty
        rw [Bool.not_eq_true, Bool.not_eq_false', List.isEmpty_iff] at empty
        rw [empty, List.nil_append, induction]

@[simp] theorem traceOf_append (front back : List Segment) :
    traceOf (front ++ back) = traceOf front ++ traceOf back :=
  List.flatMap_append

theorem stepCount_eq (segments : List Segment) :
    Replay.stepCount segments = (traceOf segments).length := by
  induction segments with
  | nil => rfl
  | cons segment segments induction =>
      rw [Replay.stepCount, induction, traceOf, traceOf, List.flatMap_cons,
        List.length_append]

/-! ## Stops -/

section

variable {stopAt : UInt64 → Bool} {effects : List OpcodeEffect}
  {position : Nat}

theorem stopsFrom_of_length_le (behind : effects.length ≤ position) :
    stopsFrom stopAt effects position = [] := by
  rw [stopsFrom, List.drop_of_length_le (by rwa [List.length_zipIdx]),
    List.filter_nil]

theorem stopsFrom_eq {effect : OpcodeEffect}
    (here : effects[position]? = some effect) :
    stopsFrom stopAt effects position =
      if stopAt effect.pc then
        (effect, position) :: stopsFrom stopAt effects (position + 1)
      else stopsFrom stopAt effects (position + 1) := by
  have numbered : effects.zipIdx[position]? = some (effect, position) := by
    rw [List.getElem?_zipIdx, here, Option.map_some, Nat.zero_add]
  obtain ⟨inside, first⟩ := List.getElem?_eq_some_iff.mp numbered
  rw [stopsFrom, List.drop_eq_getElem_cons inside, first, List.filter_cons,
    stopsFrom]

end

/-! ## Positions -/

namespace Replay

/-- The number of opcodes in front of a replay, those of earlier segments
included. -/
def position (replay : Replay) : Nat :=
  stepCount (replay.segments.take replay.segment) + replay.step

section

variable {segments : List Segment} {replay : Replay}

theorem Sound.current?_eq (sound : replay.Sound segments) :
    replay.current? = (traceOf segments)[replay.position]? := by
  rw [← traceOf_keptSegments, current?, sound.currentSegment?_eq, position,
    sound.kept]
  cases found : (keptSegments segments)[replay.segment]? with
  | none =>
      have last : replay.segment = (keptSegments segments).length :=
        Nat.le_antisymm sound.bound (List.getElem?_eq_none_iff.mp found)
      rw [last, List.take_length, stepCount_eq, (sound.behind last).step,
        Nat.add_zero, List.getElem?_eq_none (Nat.le_refl _)]
      rfl
  | some segment =>
      obtain ⟨inside, here⟩ := List.getElem?_eq_some_iff.mp found
      have before := (sound.inside segment found).step
      -- The opcodes in front are those of the segments before this one.
      have split : traceOf (keptSegments segments) =
          traceOf ((keptSegments segments).take replay.segment) ++
            traceOf (segment ::
              (keptSegments segments).drop (replay.segment + 1)) := by
        rw [← traceOf_append, ← here, ← List.drop_eq_getElem_cons inside,
          List.take_append_drop]
      rw [split, stepCount_eq, List.getElem?_append_right (by omega),
        Nat.add_sub_cancel_left, traceOf, List.flatMap_cons,
        List.getElem?_append_left before, Option.bind_some]

theorem Sound.position_execute (sound : replay.Sound segments)
    {effect : OpcodeEffect} (current : replay.current? = some effect) :
    (replay.execute effect).position = replay.position + 1 := by
  obtain ⟨segment, found, _⟩ := Option.bind_eq_some_iff.mp current
  rw [execute_eq effect found]
  split
  · rename_i last
    rw [sound.currentSegment?_eq] at found
    have before := (sound.inside segment found).step
    have grown : (keptSegments segments).take (replay.segment + 1) =
        (keptSegments segments).take replay.segment ++ [segment] := by
      rw [List.take_add_one, found, Option.toList_some]
    have size : traceOf [segment] = segment.steps :=
      List.flatMap_singleton _ _
    simp only [position, enter, sound.kept, grown, stepCount_eq,
      traceOf_append, List.length_append, size]
    omega
  · rfl

theorem Sound.pc?_eq (sound : replay.Sound segments) :
    replay.pc? = ((traceOf segments)[replay.position]?).map
      OpcodeEffect.pc := by
  rw [pc?, sound.current?_eq]

theorem Sound.position_of_isFinished (sound : replay.Sound segments)
    (finished : replay.isFinished = true) :
    replay.position = (traceOf segments).length := by
  have last := sound.isFinished_iff.mp finished
  rw [position, (sound.behind last).step, sound.kept, last, List.take_length,
    stepCount_eq, traceOf_keptSegments, Nat.add_zero]

/-- Resuming passes no stop behind the current opcode. -/
theorem Sound.stopsFrom_resume (sound : replay.Sound segments)
    (stopAt : UInt64 → Bool) :
    stopsFrom stopAt (traceOf segments) (replay.position + 1) =
      stopsFrom stopAt (traceOf segments)
        (replay.resume stopAt).2.position := by
  fun_induction Replay.resume stopAt replay with
  | case1 replay current =>
      rw [sound.current?_eq, List.getElem?_eq_none_iff] at current
      rw [stopsFrom_of_length_le current,
        stopsFrom_of_length_le (Nat.le_succ_of_le current)]
  | case2 replay effect current after finished =>
      rw [sound.position_execute current]
  | case3 replay effect current after pc standing stops =>
      rw [sound.position_execute current]
  | case4 replay effect current after pc standing stops induction =>
      have next := sound.execute current
      rw [← induction next, sound.position_execute current]
      rw [next.pc?_eq, sound.position_execute current] at standing
      obtain ⟨passed, here, rfl⟩ := Option.map_eq_some_iff.mp standing
      rw [stopsFrom_eq here, if_neg stops]

theorem resume_fst (stopAt : UInt64 → Bool) (replay : Replay) :
    (replay.resume stopAt).1 = (replay.resume stopAt).2.pc?.isSome := by
  fun_induction Replay.resume stopAt replay with
  | case1 replay current =>
      rw [pc?, current]
      rfl
  | case2 replay effect current after finished =>
      rw [finished]
      rfl
  | case3 replay effect current after pc standing stops =>
      rw [standing]
      rfl
  | case4 replay effect current after pc standing stops induction =>
      exact induction

theorem resume_stops (stopAt : UInt64 → Bool) (replay : Replay) :
    (replay.resume stopAt).2.pc? = none ∨
      ∃ pc, (replay.resume stopAt).2.pc? = some pc ∧ stopAt pc = true := by
  fun_induction Replay.resume stopAt replay with
  | case1 replay current =>
      left
      rw [pc?, current, Option.map_none]
  | case2 replay effect current after finished => exact .inl finished
  | case3 replay effect current after pc standing stops =>
      exact .inr ⟨pc, standing, stops⟩
  | case4 replay effect current after pc standing stops induction =>
      exact induction

end

end Replay

end TealTools.Debugger

import Mathlib.Data.List.DropRight
import TealTools.Debugger.Replay
import TealTools.Proofs.Entries

/-!
# What a replay reflects

However a replay was moved, its stack and its scratch space are those of the
opcodes in front of it in the current segment.  Behind the last segment
everything is cleared, and no move leads out of that state.
-/

namespace TealTools.Debugger

/-! ## Opcodes in front -/

/-- The stack behind opcodes.  An opcode drops values from the top, as far as
there are any, and adds its own. -/
def stackOf (effects : List OpcodeEffect) : List AvmValue :=
  effects.foldl
    (fun stack effect =>
      stack.rdrop (min effect.popCount.toNat stack.length) ++
        effect.additions) []

/-- The value that was last written to a slot. -/
def lastWrite? (effects : List OpcodeEffect) (slot : UInt64) :
    Option AvmValue :=
  ((effects.flatMap OpcodeEffect.scratchChanges).reverse.find?
    fun change => change.slot = slot).map ScratchChange.value

theorem stackOf_concat (effects : List OpcodeEffect)
    (effect : OpcodeEffect) :
    stackOf (effects ++ [effect]) =
      Replay.stackAfter (stackOf effects) effect := by
  rw [stackOf, List.foldl_append, ← stackOf]
  simp only [List.foldl_cons, List.foldl_nil, List.rdrop, Replay.stackAfter]
  congr 2
  omega

theorem lastWrite?_concat (effects : List OpcodeEffect)
    (effect : OpcodeEffect) (slot : UInt64) :
    lastWrite? (effects ++ [effect]) slot =
      ((effect.scratchChanges.reverse.find?
          fun change => change.slot = slot).map ScratchChange.value).or
        (lastWrite? effects slot) := by
  rw [lastWrite?, List.flatMap_append, List.flatMap_singleton,
    List.reverse_append, List.find?_append, Option.map_or, lastWrite?]

namespace Scratch

/-- Slots are in increasing order, so that each has one value. -/
def Increasing (scratch : Scratch) : Prop :=
  scratch.Pairwise fun first second => first.1 < second.1

theorem get?_cons (entry : UInt64 × AvmValue) (rest : Scratch)
    (slot : UInt64) :
    get? (entry :: rest) slot =
      if slot = entry.1 then some entry.2 else get? rest slot := by
  rw [get?, Entries.lookup_cons, get?]

@[simp] theorem get?_insert (scratch : Scratch) (slot other : UInt64)
    (value : AvmValue) :
    (scratch.insert slot value).get? other =
      if other = slot then some value else scratch.get? other := by
  induction scratch with
  | nil => exact get?_cons (slot, value) [] other
  | cons entry rest induction =>
      rw [insert]
      split
      · rw [get?_cons]
      · split
        · rename_i same
          rw [get?_cons, get?_cons, same]
          split <;> rfl
        · rename_i different
          rw [get?_cons, get?_cons, induction]
          by_cases own : other = entry.1
          · have away : other ≠ slot := own ▸ Ne.symm different
            rw [if_pos own, if_neg away, if_pos own]
          · rw [if_neg own, if_neg own]

private theorem mem_insert
    {scratch : Scratch} {slot : UInt64} {value : AvmValue}
    {entry : UInt64 × AvmValue} (member : entry ∈ scratch.insert slot value) :
    entry = (slot, value) ∨ entry ∈ scratch := by
  induction scratch with
  | nil => exact .inl (List.mem_singleton.mp member)
  | cons head rest induction =>
      rw [insert] at member
      split at member
      · exact List.mem_cons.mp member
      · split at member
        · rcases List.mem_cons.mp member with new | old
          · exact .inl new
          · exact .inr (List.mem_cons_of_mem head old)
        · rcases List.mem_cons.mp member with first | later
          · exact .inr (first ▸ List.mem_cons_self)
          · rcases induction later with new | old
            · exact .inl new
            · exact .inr (List.mem_cons_of_mem head old)

theorem Increasing.insert {scratch : Scratch} (increasing : scratch.Increasing)
    (slot : UInt64) (value : AvmValue) :
    (scratch.insert slot value).Increasing := by
  induction scratch with
  | nil => exact List.pairwise_singleton _ _
  | cons head rest induction =>
      obtain ⟨first, later⟩ := List.pairwise_cons.mp increasing
      rw [Scratch.insert]
      split
      · rename_i below
        refine List.pairwise_cons.mpr ⟨?_, increasing⟩
        intro entry member
        rcases List.mem_cons.mp member with rfl | old
        · exact below
        · exact UInt64.lt_trans below (first entry old)
      · rename_i notBelow
        split
        · rename_i same
          refine List.pairwise_cons.mpr ⟨?_, later⟩
          intro entry member
          exact same ▸ first entry member
        · rename_i different
          refine List.pairwise_cons.mpr ⟨?_, induction later⟩
          intro entry member
          rcases mem_insert member with rfl | old
          · exact UInt64.lt_of_le_of_ne (UInt64.not_lt.mp notBelow)
              (Ne.symm different)
          · exact first entry old

theorem Increasing.get?_eq_some_iff {scratch : Scratch}
    (increasing : scratch.Increasing) {slot : UInt64} {value : AvmValue} :
    scratch.get? slot = some value ↔ (slot, value) ∈ scratch := by
  induction scratch with
  | nil => exact ⟨nofun, nofun⟩
  | cons entry rest induction =>
      obtain ⟨first, later⟩ := List.pairwise_cons.mp increasing
      rw [get?_cons, List.mem_cons]
      by_cases own : slot = entry.1
      · rw [if_pos own, Option.some.injEq]
        constructor
        · rintro rfl
          exact .inl (Prod.ext own rfl)
        · rintro (same | behind)
          · exact (congrArg Prod.snd same).symm
          · exact absurd own.symm (UInt64.ne_of_lt (first _ behind))
      · rw [if_neg own, induction later]
        constructor
        · exact .inr
        · rintro (same | behind)
          · exact absurd (congrArg Prod.fst same) own
          · exact behind

end Scratch

theorem get?_scratchAfter (scratch : Scratch) (effect : OpcodeEffect)
    (slot : UInt64) :
    (Replay.scratchAfter scratch effect).get? slot =
      ((effect.scratchChanges.reverse.find?
          fun change => change.slot = slot).map ScratchChange.value).or
        (scratch.get? slot) := by
  unfold Replay.scratchAfter
  induction effect.scratchChanges generalizing scratch with
  | nil => rfl
  | cons change changes induction =>
      rw [List.foldl_cons, induction, Scratch.get?_insert,
        List.reverse_cons, List.find?_append, Option.map_or, Option.or_assoc]
      congr 1
      by_cases own : slot = change.slot
      · simp [own]
      · simp [own, Ne.symm own]

private theorem increasing_scratchAfter {scratch : Scratch}
    (increasing : scratch.Increasing) (effect : OpcodeEffect) :
    (Replay.scratchAfter scratch effect).Increasing := by
  unfold Replay.scratchAfter
  induction effect.scratchChanges generalizing scratch with
  | nil => exact increasing
  | cons change changes induction =>
      exact induction (increasing.insert change.slot change.value)

/-! ## Sound replays -/

/-- The segments in which something was executed. -/
def keptSegments (segments : List Segment) : List Segment :=
  segments.filter fun segment => !segment.steps.isEmpty

namespace Replay

/-- A replay inside a segment reflects the opcodes in front of it. -/
structure Reflects (replay : Replay) (segment : Segment) : Prop where
  step : replay.step < segment.steps.length
  stack : replay.stack = stackOf (segment.steps.take replay.step)
  increasing : replay.scratch.Increasing
  scratch : ∀ slot, replay.scratch.get? slot =
    lastWrite? (segment.steps.take replay.step) slot

/-- A replay behind the last segment holds nothing. -/
structure Cleared (replay : Replay) : Prop where
  step : replay.step = 0
  stack : replay.stack = []
  scratch : replay.scratch = []

/-- A replay of segments that stands inside one of them, or behind all. -/
structure Sound (segments : List Segment) (replay : Replay) : Prop where
  kept : replay.segments = keptSegments segments
  bound : replay.segment ≤ (keptSegments segments).length
  inside : ∀ segment, (keptSegments segments)[replay.segment]? = some segment →
    replay.Reflects segment
  behind : replay.segment = (keptSegments segments).length → replay.Cleared

section

variable {segments : List Segment} {replay : Replay}

theorem sound_enter (kept : replay.segments = keptSegments segments)
    {index : Nat} (bound : index ≤ (keptSegments segments).length) :
    (replay.enter index).Sound segments where
  kept := kept
  bound := bound
  inside segment found := by
    have member := List.mem_of_getElem? found
    have nonempty := (List.mem_filter.mp member).2
    rw [Bool.not_eq_true', List.isEmpty_eq_false_iff] at nonempty
    exact ⟨List.length_pos_of_ne_nil nonempty, rfl, .nil, fun _ => rfl⟩
  behind _ := ⟨rfl, rfl, rfl⟩

theorem sound_ofSegments (segments : List Segment) :
    (ofSegments segments).Sound segments :=
  @sound_enter segments (ofSegments segments) rfl 0 (Nat.zero_le _)

theorem Sound.currentSegment?_eq (sound : replay.Sound segments) :
    replay.currentSegment? = (keptSegments segments)[replay.segment]? := by
  rw [currentSegment?, sound.kept]

theorem execute_eq {segment : Segment} (effect : OpcodeEffect)
    (found : replay.currentSegment? = some segment) :
    replay.execute effect =
      if segment.steps.length ≤ replay.step + 1 then
        replay.enter (replay.segment + 1)
      else
        { replay with
          step := replay.step + 1
          stack := stackAfter replay.stack effect
          scratch := scratchAfter replay.scratch effect } := by
  unfold currentSegment? at found
  simp only [execute, isExhausted, currentSegment?, found, ge_iff_le,
    decide_eq_true_eq]
  rfl

theorem Sound.execute (sound : replay.Sound segments)
    {effect : OpcodeEffect} (current : replay.current? = some effect) :
    (replay.execute effect).Sound segments := by
  obtain ⟨segment, found, here⟩ := Option.bind_eq_some_iff.mp current
  rw [execute_eq effect found]
  rw [sound.currentSegment?_eq] at found
  obtain ⟨inside, _⟩ := List.getElem?_eq_some_iff.mp found
  have reflects := sound.inside segment found
  split
  · exact sound_enter sound.kept inside
  · rename_i more
    -- The opcode now belongs to those in front.
    have grown : segment.steps.take (replay.step + 1) =
        segment.steps.take replay.step ++ [effect] := by
      rw [List.take_add_one, here, Option.toList_some]
    refine ⟨sound.kept, sound.bound, ?_, ?_⟩
    · intro other same
      rw [found, Option.some.injEq] at same
      subst same
      refine ⟨Nat.lt_of_not_le more, ?_, ?_, ?_⟩
      · simp only [grown, stackOf_concat, ← reflects.stack]
      · exact increasing_scratchAfter reflects.increasing effect
      · intro slot
        simp only [grown, lastWrite?_concat, get?_scratchAfter,
          reflects.scratch]
    · intro last
      simp only at last
      omega

theorem Sound.increasing (sound : replay.Sound segments) :
    replay.scratch.Increasing := by
  rcases Nat.lt_or_eq_of_le sound.bound with before | last
  · exact (sound.inside _ (List.getElem?_eq_getElem before)).increasing
  · rw [(sound.behind last).scratch]
    exact .nil

/-- A replay is finished exactly behind its last segment. -/
theorem Sound.isFinished_iff (sound : replay.Sound segments) :
    replay.isFinished = true ↔
      replay.segment = (keptSegments segments).length := by
  rw [isFinished, Option.isNone_iff_eq_none]
  constructor
  · intro none
    by_contra before
    have inside : replay.segment < (keptSegments segments).length :=
      Nat.lt_of_le_of_ne sound.bound before
    have found := List.getElem?_eq_getElem inside
    rw [current?, sound.currentSegment?_eq, found, Option.bind_some,
      List.getElem?_eq_none_iff] at none
    exact Nat.not_lt.mpr none (sound.inside _ found).step
  · intro last
    rw [current?, sound.currentSegment?_eq, last,
      List.getElem?_eq_none (Nat.le_refl _), Option.bind_none]

end

/-! ## Moves -/

/-- What may be asked of a replay. -/
inductive Move where
  | stepInto
  | stepOut
  | resume (stopAt : UInt64 → Bool)

def Move.apply : Move → Replay → Bool × Replay
  | stepInto => Replay.stepInto
  | stepOut => Replay.stepOut
  | resume stopAt => Replay.resume stopAt

/-- The replay behind moves that follow one another. -/
def run (replay : Replay) (moves : List Move) : Replay :=
  moves.foldl (fun replay move => (move.apply replay).2) replay

section

variable {segments : List Segment} {replay : Replay}

theorem Sound.stepInto (sound : replay.Sound segments) :
    replay.stepInto.2.Sound segments := by
  unfold Replay.stepInto
  split
  · exact sound
  · rename_i effect current
    exact sound.execute current

theorem Sound.stepOut (sound : replay.Sound segments) :
    replay.stepOut.2.Sound segments := by
  unfold Replay.stepOut
  split
  · exact sound
  · rename_i running
    rw [sound.isFinished_iff] at running
    have inside := Nat.lt_of_le_of_ne sound.bound running
    exact sound_enter sound.kept inside

theorem Sound.resume (sound : replay.Sound segments)
    (stopAt : UInt64 → Bool) : (replay.resume stopAt).2.Sound segments := by
  fun_induction Replay.resume stopAt replay with
  | case1 replay current => exact sound
  | case2 replay effect current after finished =>
      exact sound.execute current
  | case3 replay effect current after pc standing stops =>
      exact sound.execute current
  | case4 replay effect current after pc standing stops induction =>
      exact induction (sound.execute current)

theorem Sound.apply (sound : replay.Sound segments) (move : Move) :
    (move.apply replay).2.Sound segments := by
  cases move with
  | stepInto => exact sound.stepInto
  | stepOut => exact sound.stepOut
  | resume stopAt => exact sound.resume stopAt

theorem Sound.run (sound : replay.Sound segments) (moves : List Move) :
    (replay.run moves).Sound segments := by
  induction moves generalizing replay with
  | nil => exact sound
  | cons move moves induction => exact induction (sound.apply move)

theorem apply_of_isFinished (finished : replay.isFinished = true)
    (move : Move) : move.apply replay = (false, replay) := by
  have current : replay.current? = none := Option.isNone_iff_eq_none.mp finished
  cases move with
  | stepInto => rw [Move.apply, Replay.stepInto, current]
  | stepOut => rw [Move.apply, Replay.stepOut, if_pos finished]
  | resume stopAt =>
      rw [Move.apply, Replay.resume]
      split
      · rfl
      · rename_i effect some
        rw [current] at some
        cases some

end

/-- Whatever moves were made, a replay reflects the opcodes in front of it, or
is cleared and stays so. -/
theorem sound_run (segments : List Segment) (moves : List Move) :
    ((ofSegments segments).run moves).Sound segments ∧
      (((ofSegments segments).run moves).segment =
          (keptSegments segments).length →
        ∀ move : Move, move.apply ((ofSegments segments).run moves) =
          (false, (ofSegments segments).run moves)) ∧
      (((ofSegments segments).run moves).isFinished = true ↔
        ((ofSegments segments).run moves).segment =
          (keptSegments segments).length) := by
  have sound := (sound_ofSegments segments).run moves
  refine ⟨sound, ?_, sound.isFinished_iff⟩
  intro last
  exact apply_of_isFinished (sound.isFinished_iff.mpr last)

end Replay

end TealTools.Debugger

import TealTools.Simulation

/-!
# Replaying an execution

A replay stands in front of an opcode: stack and scratch space reflect every
opcode already executed in the current segment.  Each segment is one program
run and begins with an empty stack and an empty scratch space.
-/

namespace TealTools.Debugger

/-- One program run. -/
structure Segment where
  label : String
  steps : List OpcodeEffect
  deriving DecidableEq, Repr

namespace Segment

/-- A segment, unless the program did not run. -/
def ofProgram (label kind : String) (steps : List OpcodeEffect) :
    List Segment :=
  if steps.isEmpty then [] else [{ label := s!"{label} {kind}", steps }]

mutual

/-- The program runs of a trace, those of inner transactions behind their
own. -/
def ofTrace (label : String) : ExecutionTrace → List Segment
  | .node logicSig approval clearState inner =>
    ofProgram label "logic sig" logicSig ++
      ofProgram label "approval" approval ++
      ofProgram label "clear state" clearState ++
      ofInner label 0 inner

/-- The program runs of inner transactions, numbered from the given one. -/
def ofInner (label : String) (index : Nat) :
    List ExecutionTrace → List Segment
  | [] => []
  | trace :: traces =>
    ofTrace s!"{label} inner {index}" trace ++
      ofInner label (index + 1) traces

end

/-- The program runs of transactions, numbered from the given one. -/
def ofTransactions (group index : Nat) :
    List TransactionResult → List Segment
  | [] => []
  | result :: results =>
    (match result.trace with
      | some trace => ofTrace s!"group {group} txn {index}" trace
      | none => []) ++
      ofTransactions group (index + 1) results

/-- The program runs of groups, numbered from the given one. -/
def ofGroups (index : Nat) : List GroupResult → List Segment
  | [] => []
  | group :: groups =>
    ofTransactions index 0 group.transactions ++ ofGroups (index + 1) groups

/-- Every program run of a simulation. -/
def ofSimulation (simulation : Simulation) : List Segment :=
  ofGroups 0 simulation.groups

end Segment

/-- Scratch slots that hold a value, in increasing order. -/
abbrev Scratch := List (UInt64 × AvmValue)

namespace Scratch

/-- Writes a slot; a later value replaces an earlier one. -/
def insert (slot : UInt64) (value : AvmValue) : Scratch → Scratch
  | [] => [(slot, value)]
  | (other, old) :: rest =>
    if slot < other then (slot, value) :: (other, old) :: rest
    else if slot = other then (slot, value) :: rest
    else (other, old) :: insert slot value rest

def get? (scratch : Scratch) (slot : UInt64) : Option AvmValue :=
  scratch.lookup slot

end Scratch

structure Replay where
  segments : List Segment
  /-- The index of the current segment. -/
  segment : Nat
  /-- The number of opcodes executed in it. -/
  step : Nat
  stack : List AvmValue
  scratch : Scratch
  deriving DecidableEq, Repr

namespace Replay

/-- In front of the first opcode; segments without opcodes are dropped. -/
def ofSegments (segments : List Segment) : Replay :=
  { segments := segments.filter fun segment => !segment.steps.isEmpty
    segment := 0
    step := 0
    stack := []
    scratch := [] }

def ofSimulation (simulation : Simulation) : Replay :=
  ofSegments (Segment.ofSimulation simulation)

def currentSegment? (replay : Replay) : Option Segment :=
  replay.segments[replay.segment]?

/-- The opcode that the replay stands in front of. -/
def current? (replay : Replay) : Option OpcodeEffect :=
  replay.currentSegment?.bind fun segment => segment.steps[replay.step]?

def pc? (replay : Replay) : Option UInt64 :=
  replay.current?.map OpcodeEffect.pc

def label? (replay : Replay) : Option String :=
  replay.currentSegment?.map Segment.label

def isFinished (replay : Replay) : Bool :=
  replay.current?.isNone

/-- Begins the segment with the given index. -/
def enter (replay : Replay) (segment : Nat) : Replay :=
  { replay with segment, step := 0, stack := [], scratch := [] }

/-- The stack behind an opcode. -/
def stackAfter (stack : List AvmValue) (effect : OpcodeEffect) :
    List AvmValue :=
  stack.take (stack.length - effect.popCount.toNat) ++ effect.additions

/-- The scratch space behind an opcode. -/
def scratchAfter (scratch : Scratch) (effect : OpcodeEffect) : Scratch :=
  effect.scratchChanges.foldl
    (fun scratch change => scratch.insert change.slot change.value) scratch

/-- Is the current segment behind its last opcode? -/
def isExhausted (replay : Replay) : Bool :=
  match replay.currentSegment? with
  | some segment => replay.step ≥ segment.steps.length
  | none => true

/-- Executes one opcode that stands next. -/
def execute (replay : Replay) (effect : OpcodeEffect) : Replay :=
  let after :=
    { replay with
      step := replay.step + 1
      stack := stackAfter replay.stack effect
      scratch := scratchAfter replay.scratch effect }
  if after.isExhausted then after.enter (replay.segment + 1) else after

/-- Executes the current opcode.  The result is false once nothing is left to
execute. -/
def stepInto (replay : Replay) : Bool × Replay :=
  match replay.current? with
  | none => (false, replay)
  | some effect =>
    let after := replay.execute effect
    (!after.isFinished, after)

/-- Skips the rest of the current segment. -/
def stepOut (replay : Replay) : Bool × Replay :=
  if replay.isFinished then (false, replay)
  else
    let after := replay.enter (replay.segment + 1)
    (!after.isFinished, after)

/-- The number of opcodes of segments. -/
def stepCount : List Segment → Nat
  | [] => 0
  | segment :: segments => segment.steps.length + stepCount segments

/-- The number of opcodes that are still to be executed. -/
def remaining (replay : Replay) : Nat :=
  stepCount (replay.segments.drop replay.segment) - replay.step

theorem remaining_execute_lt {replay : Replay} {effect : OpcodeEffect}
    (current : replay.current? = some effect) :
    (replay.execute effect).remaining < replay.remaining := by
  simp only [current?, currentSegment?, Option.bind_eq_some_iff] at current
  obtain ⟨segment, here, step⟩ := current
  obtain ⟨inside, rfl⟩ := List.getElem?_eq_some_iff.mp here
  obtain ⟨before, _⟩ := List.getElem?_eq_some_iff.mp step
  have split : replay.segments.drop replay.segment =
      replay.segments[replay.segment] ::
        replay.segments.drop (replay.segment + 1) :=
    List.drop_eq_getElem_cons inside
  unfold execute
  simp only [isExhausted, currentSegment?, here]
  split
  · simp only [enter, remaining, split, stepCount]
    omega
  · simp only [remaining, split, stepCount]
    omega

/-- Executes opcodes, at least one, until the next one's program counter
satisfies the condition.  The result is false if nothing is left first. -/
def resume (stopAt : UInt64 → Bool) (replay : Replay) : Bool × Replay :=
  match _current : replay.current? with
  | none => (false, replay)
  | some effect =>
    let after := replay.execute effect
    match after.pc? with
    | none => (false, after)
    | some pc => if stopAt pc then (true, after) else after.resume stopAt
termination_by replay.remaining
decreasing_by exact remaining_execute_lt _current

end Replay

end TealTools.Debugger

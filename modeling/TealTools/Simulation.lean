import TealTools.AvmValue

/-!
# Simulated executions

What a node reports about a simulated transaction group, as far as a replay
needs it: for every program that ran, the effect of each executed opcode.
-/

namespace TealTools

structure ScratchChange where
  slot : UInt64
  value : AvmValue
  deriving DecidableEq, Repr

/-- The effect of executing the opcode at a program counter. -/
structure OpcodeEffect where
  pc : UInt64
  popCount : UInt64
  additions : List AvmValue
  scratchChanges : List ScratchChange
  deriving DecidableEq, Repr

/-- The programs that a transaction ran, and those of the transactions it
issued. -/
inductive ExecutionTrace where
  | node (logicSig approval clearState : List OpcodeEffect)
      (inner : List ExecutionTrace)
  deriving Repr

structure TransactionResult where
  trace : Option ExecutionTrace
  deriving Repr

structure GroupResult where
  transactions : List TransactionResult
  failureMessage : Option String
  failedAt : Option (List UInt64)
  deriving Repr

structure Simulation where
  version : UInt64
  lastRound : UInt64
  groups : List GroupResult
  deriving Repr

def ScratchChange.toJson (change : ScratchChange) : Json :=
  .obj [("slot", .nat change.slot.toNat), ("new-value", change.value.toJson)]

def ScratchChange.decode? : Nat → Json → Option ScratchChange
  | 0, _ => none
  | depth + 1, json => do
    match ← json.fields? ["slot", "new-value"] with
    | [slot, value] =>
      return { slot := ← slot.required Json.uint64?
               value := ← value.required (AvmValue.decode? depth) }
    | _ => none

namespace OpcodeEffect

def toJson (effect : OpcodeEffect) : Json :=
  .obj
    [("pc", .nat effect.pc.toNat),
     ("stack-pop-count", .nat effect.popCount.toNat),
     ("stack-additions", .array (effect.additions.map AvmValue.toJson)),
     ("scratch-changes",
       .array (effect.scratchChanges.map ScratchChange.toJson))]

def decode? : Nat → Json → Option OpcodeEffect
  | 0, _ => none
  | depth + 1, json => do
    match ← json.fields?
        ["pc", "stack-pop-count", "stack-additions", "scratch-changes"] with
    | [pc, popCount, additions, changes] =>
      pure
        { pc := ← pc.required Json.uint64?
          popCount := ← popCount.withDefault 0 Json.uint64?
          additions := ← additions.withDefault []
            (Json.listOf? AvmValue.decode? depth)
          scratchChanges := ← changes.withDefault []
            (Json.listOf? ScratchChange.decode? depth) }
    | _ => none

end OpcodeEffect

namespace ExecutionTrace

mutual

def toJson : ExecutionTrace → Json
  | node logicSig approval clearState inner =>
    .obj
      [("logic-sig-trace", .array (logicSig.map OpcodeEffect.toJson)),
       ("approval-program-trace", .array (approval.map OpcodeEffect.toJson)),
       ("clear-state-program-trace",
         .array (clearState.map OpcodeEffect.toJson)),
       ("inner-trace", .array (listToJson inner))]

def listToJson : List ExecutionTrace → List Json
  | [] => []
  | trace :: traces => trace.toJson :: listToJson traces

end

def decode? : Nat → Json → Option ExecutionTrace
  | 0, _ => none
  | depth + 1, json => do
    match ← json.fields?
        ["logic-sig-trace", "approval-program-trace",
         "clear-state-program-trace", "inner-trace"] with
    | [logicSig, approval, clearState, inner] =>
      let effects := Json.listOf? OpcodeEffect.decode? depth
      let traces : Json → Option (List ExecutionTrace)
        | .array items =>
          match depth with
          | 0 => none
          | depth + 1 => items.mapM (decode? depth)
        | _ => none
      return node (← logicSig.withDefault [] effects)
        (← approval.withDefault [] effects)
        (← clearState.withDefault [] effects)
        (← inner.withDefault [] traces)
    | _ => none

end ExecutionTrace

namespace TransactionResult

def toJson (result : TransactionResult) : Json :=
  .obj (result.trace.toList.map fun trace => ("exec-trace", trace.toJson))

def decode? : Nat → Json → Option TransactionResult
  | 0, _ => none
  | depth + 1, json => do
    match ← json.fields? ["exec-trace"] with
    | [trace] =>
      return { trace := ← trace.nullable (ExecutionTrace.decode? depth) }
    | _ => none

end TransactionResult

namespace GroupResult

def toJson (group : GroupResult) : Json :=
  .obj
    ([("txn-results", .array (group.transactions.map TransactionResult.toJson))]
      ++ (group.failureMessage.toList.map fun text =>
        ("failure-message", .str text))
      ++ (group.failedAt.toList.map fun path =>
        ("failed-at", .array (path.map fun index => .nat index.toNat))))

def decode? : Nat → Json → Option GroupResult
  | 0, _ => none
  | depth + 1, json => do
    match ← json.fields? ["txn-results", "failure-message", "failed-at"] with
    | [transactions, message, failedAt] =>
      pure
        { transactions := ← transactions.withDefault []
            (Json.listOf? TransactionResult.decode? depth)
          failureMessage := ← message.nullable Json.string?
          failedAt := ← failedAt.nullable
            (Json.listOf? (fun _ => Json.uint64?) depth) }
    | _ => none

end GroupResult

namespace Simulation

def toJson (simulation : Simulation) : Json :=
  .obj
    [("version", .nat simulation.version.toNat),
     ("last-round", .nat simulation.lastRound.toNat),
     ("txn-groups", .array (simulation.groups.map GroupResult.toJson))]

def decodeAt? : Nat → Json → Option Simulation
  | 0, _ => none
  | depth + 1, json => do
    match ← json.fields? ["version", "last-round", "txn-groups"] with
    | [version, lastRound, groups] =>
      pure
        { version := ← version.withDefault 0 Json.uint64?
          lastRound := ← lastRound.withDefault 0 Json.uint64?
          groups := ← groups.withDefault []
            (Json.listOf? GroupResult.decode? depth) }
    | _ => none

/-- The simulation that a document describes. -/
def decode? (json : Json) : Option Simulation :=
  decodeAt? Json.maxDepth json

end Simulation

end TealTools

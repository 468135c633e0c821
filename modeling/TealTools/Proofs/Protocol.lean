import TealTools.Proofs.Debugger.LaunchArguments
import TealTools.Proofs.Json.Edits
import TealTools.Proofs.Json.Records
import TealTools.Simulation

/-!
# Documents of the debugger protocol

Simulations, values and launch arguments are read back from the texts that
are written for them, as deep as a document may be nested.  The same holds of
every text whose document has the members of its records in another order, or
members that no record knows.
-/

namespace TealTools

open Json

/-! ## Written documents -/

namespace AvmValue

theorem fields?_toJson (value : AvmValue) :
    value.toJson.fields? ["type", "bytes", "uint"] =
      some [.value (nat value.kind.toNat), givenOf str value.bytes,
        givenOf (fun number => nat number.toNat) value.uint] := by
  rw [toJson, fields?_obj]
  cases value.bytes <;> cases value.uint <;>
    simp [member?, valuesOf, givenOf]

@[simp] theorem decode?_toJson (value : AvmValue) (depth : Nat) :
    decode? (depth + 1) value.toJson = some value := by
  have bytes : (givenOf str value.bytes).nullable string? = some value.bytes :=
    nullable_givenOf (fun _ _ => rfl) (fun _ _ => nofun)
  have uint : (givenOf (fun number => nat number.toNat) value.uint).nullable
      uint64? = some value.uint :=
    nullable_givenOf (fun number _ => uint64?_nat number) (fun _ _ => nofun)
  simp [decode?, fields?_toJson, Given.required, bytes, uint]

theorem readsBack (depth : Nat) : ReadsBack toJson decode? depth := by
  intro value shallow
  obtain ⟨depth, rfl, -⟩ := nesting_obj_le.mp shallow
  exact value.decode?_toJson depth

theorem plain_toJson (value : AvmValue) : Plain value.toJson := by
  apply plain_obj
  simp only [List.mem_append, List.mem_map, List.mem_singleton]
  rintro member ((rfl | ⟨text, _, rfl⟩) | ⟨number, _, rfl⟩)
  · exact .int _
  · exact .str text
  · exact .int _

end AvmValue

namespace ScratchChange

theorem readsBack (depth : Nat) : ReadsBack toJson decode? depth := by
  intro change shallow
  obtain ⟨depth, rfl, inside⟩ := nesting_obj_le.mp shallow
  simp only [List.forall_mem_cons] at inside
  obtain ⟨-, inValue, -⟩ := inside
  have value := AvmValue.readsBack depth change.value inValue
  simp [decode?, toJson, fields?_obj, member?, valuesOf, Given.required,
    value]

theorem plain_toJson (change : ScratchChange) : Plain change.toJson := by
  apply plain_obj
  simp only [List.forall_mem_cons]
  exact ⟨.int _, change.value.plain_toJson, nofun⟩

end ScratchChange

namespace OpcodeEffect

theorem readsBack (depth : Nat) : ReadsBack toJson decode? depth := by
  intro effect shallow
  obtain ⟨depth, rfl, inside⟩ := nesting_obj_le.mp shallow
  simp only [List.forall_mem_cons] at inside
  obtain ⟨-, -, inAdditions, inChanges, -⟩ := inside
  have additions := listOf?_map (fun depth _ => AvmValue.readsBack depth)
    inAdditions
  have changes := listOf?_map (fun depth _ => ScratchChange.readsBack depth)
    inChanges
  simp [decode?, toJson, fields?_obj, member?, valuesOf, Given.required,
    Given.withDefault, additions, changes]

theorem plain_toJson (effect : OpcodeEffect) : Plain effect.toJson := by
  apply plain_obj
  simp only [List.forall_mem_cons]
  exact ⟨.int _, .int _, plain_list AvmValue.plain_toJson _,
    plain_list ScratchChange.plain_toJson _, nofun⟩

end OpcodeEffect

namespace ExecutionTrace

private theorem listToJson_eq_map (traces : List ExecutionTrace) :
    listToJson traces = traces.map toJson := by
  induction traces with
  | nil => rfl
  | cons trace traces induction => rw [listToJson, induction, List.map_cons]

/-- A trace out of its fields; the traces inside are a list like any other. -/
def ofFields? (depth : Nat) : List Given → Option ExecutionTrace
  | [logicSig, approval, clearState, inner] => do
    let effects := listOf? OpcodeEffect.decode? depth
    return node (← logicSig.withDefault [] effects)
      (← approval.withDefault [] effects)
      (← clearState.withDefault [] effects)
      (← inner.withDefault [] (listOf? decode? depth))
  | _ => none

theorem decode?_succ (depth : Nat) (json : Json) :
    decode? (depth + 1) json =
      (json.fields? ["logic-sig-trace", "approval-program-trace",
        "clear-state-program-trace", "inner-trace"]).bind
          (ofFields? depth) := by
  rw [decode?]
  apply Option.bind_congr
  intro given _
  match given with
  | [logicSig, approval, clearState, inner] =>
      cases inner with
      | value json => cases json <;> cases depth <;> rfl
      | omitted => rfl
      | cutOff => rfl
  | [] | [_] | [_, _] | [_, _, _] | _ :: _ :: _ :: _ :: _ :: _ => rfl

theorem readsBack (depth : Nat) : ReadsBack toJson decode? depth := by
  induction depth using Nat.strongRecOn with
  | ind depth induction =>
      intro trace shallow
      obtain ⟨logicSig, approval, clearState, inner⟩ := trace
      rw [toJson, listToJson_eq_map] at shallow ⊢
      obtain ⟨depth, rfl, inside⟩ := nesting_obj_le.mp shallow
      simp only [List.forall_mem_cons] at inside
      obtain ⟨inLogicSig, inApproval, inClearState, inInner, -⟩ := inside
      have effects := fun smaller (_ : smaller < depth) =>
        OpcodeEffect.readsBack smaller
      -- The traces inside stand in a list, so they are read at a smaller depth.
      have traces := listOf?_map
        (fun smaller less => induction smaller (Nat.lt_succ_of_lt less))
        inInner
      simp [decode?_succ, ofFields?, fields?_obj, member?, valuesOf,
        Given.withDefault, listOf?_map effects inLogicSig,
        listOf?_map effects inApproval, listOf?_map effects inClearState,
        traces]

mutual

theorem plain_toJson : ∀ trace : ExecutionTrace, Plain trace.toJson
  | node logicSig approval clearState inner => by
      have effects := plain_list OpcodeEffect.plain_toJson
      apply plain_obj
      simp only [List.forall_mem_cons]
      exact ⟨effects logicSig, effects approval, effects clearState,
        .array (plain_listToJson inner), nofun⟩

private theorem plain_listToJson :
    ∀ traces : List ExecutionTrace, ∀ json ∈ listToJson traces, Plain json
  | [] => nofun
  | trace :: traces =>
      List.forall_mem_cons.mpr ⟨plain_toJson trace, plain_listToJson traces⟩

end

end ExecutionTrace

namespace TransactionResult

theorem fields?_toJson (result : TransactionResult) :
    result.toJson.fields? ["exec-trace"] =
      some [givenOf ExecutionTrace.toJson result.trace] := by
  rw [toJson, fields?_obj]
  cases result.trace <;> simp [member?, valuesOf, givenOf]

theorem readsBack (depth : Nat) : ReadsBack toJson decode? depth := by
  intro result shallow
  obtain ⟨depth, rfl, inside⟩ := nesting_obj_le.mp shallow
  have trace : (givenOf ExecutionTrace.toJson result.trace).nullable
      (ExecutionTrace.decode? depth) = some result.trace := by
    apply nullable_givenOf
    · intro trace here
      apply ExecutionTrace.readsBack depth trace
      exact inside (_, trace.toJson) (List.mem_map_of_mem
        (Option.mem_toList.mpr here))
    · rintro ⟨_, _, _, _⟩ _
      nofun
  simp [decode?, fields?_toJson, trace]

theorem plain_toJson (result : TransactionResult) : Plain result.toJson := by
  apply plain_obj
  simp only [List.forall_mem_map]
  exact fun trace _ => trace.plain_toJson

end TransactionResult

namespace GroupResult

theorem fields?_toJson (group : GroupResult) :
    group.toJson.fields? ["txn-results", "failure-message", "failed-at"] =
      some [.value (array (group.transactions.map TransactionResult.toJson)),
        givenOf str group.failureMessage,
        givenOf (fun path => array (path.map fun index => nat index.toNat))
          group.failedAt] := by
  rw [toJson, fields?_obj]
  cases group.failureMessage <;> cases group.failedAt <;>
    simp [member?, valuesOf, givenOf]

theorem readsBack (depth : Nat) : ReadsBack toJson decode? depth := by
  intro group shallow
  obtain ⟨depth, rfl, inside⟩ := nesting_obj_le.mp shallow
  have transactions := listOf?_map
    (fun depth _ => TransactionResult.readsBack depth)
    (inside ("txn-results", array (group.transactions.map _)) (by simp))
  have message : (givenOf str group.failureMessage).nullable string? =
      some group.failureMessage :=
    nullable_givenOf (fun _ _ => rfl) (fun _ _ => nofun)
  have failedAt : (givenOf (fun path => array (path.map fun index =>
      nat index.toNat)) group.failedAt).nullable
      (listOf? (fun _ => uint64?) depth) = some group.failedAt := by
    apply nullable_givenOf
    · intro path here
      apply listOf?_map
      · exact fun _ _ index _ => uint64?_nat index
      · apply inside ("failed-at", array (path.map _))
        simp [Option.mem_def.mp here]
    · exact fun _ _ => nofun
  simp [decode?, fields?_toJson, Given.withDefault, transactions, message,
    failedAt]

theorem plain_toJson (group : GroupResult) : Plain group.toJson := by
  apply plain_obj
  simp only [List.mem_append, List.mem_map, List.mem_singleton]
  rintro member ((rfl | ⟨text, _, rfl⟩) | ⟨path, _, rfl⟩)
  · exact plain_list TransactionResult.plain_toJson _
  · exact .str text
  · exact plain_list (fun _ => .int _) path

end GroupResult

namespace Simulation

theorem readsBack (depth : Nat) : ReadsBack toJson decodeAt? depth := by
  intro simulation shallow
  obtain ⟨depth, rfl, inside⟩ := nesting_obj_le.mp shallow
  simp only [List.forall_mem_cons] at inside
  obtain ⟨-, -, inGroups, -⟩ := inside
  have groups := listOf?_map (fun depth _ => GroupResult.readsBack depth)
    inGroups
  simp [decodeAt?, toJson, fields?_obj, member?, valuesOf, Given.withDefault,
    groups]

theorem plain_toJson (simulation : Simulation) : Plain simulation.toJson := by
  apply plain_obj
  simp only [List.forall_mem_cons]
  exact ⟨.int _, .int _, plain_list GroupResult.plain_toJson _, nofun⟩

end Simulation

/-! ## Edited documents -/

namespace Protocol

/-- The records of the protocol. -/
inductive Kind where
  | simulation
  | group
  | transaction
  | trace
  | effect
  | change
  | value
  | launch

/-- What the records know. -/
def vocabulary : Vocabulary Kind where
  fields
    | .simulation =>
      [("version", .bare), ("last-round", .bare),
       ("txn-groups", .list .group)]
    | .group =>
      [("txn-results", .list .transaction), ("failure-message", .bare),
       ("failed-at", .bare)]
    | .transaction => [("exec-trace", .record .trace)]
    | .trace =>
      [("logic-sig-trace", .list .effect),
       ("approval-program-trace", .list .effect),
       ("clear-state-program-trace", .list .effect),
       ("inner-trace", .list .trace)]
    | .effect =>
      [("pc", .bare), ("stack-pop-count", .bare),
       ("stack-additions", .list .value), ("scratch-changes", .list .change)]
    | .change => [("slot", .bare), ("new-value", .record .value)]
    | .value => [("type", .bare), ("bytes", .bare), ("uint", .bare)]
    | .launch => [("program", .bare), ("stopOnEntry", .bare)]
  distinct kind := by cases kind <;> simp

theorem blind_value (depth : Nat) :
    Blind vocabulary (.record .value) (AvmValue.decode? depth) := by
  intro json json' edit
  cases depth with
  | zero => rfl
  | succ depth =>
      rw [AvmValue.decode?, AvmValue.decode?]
      refine edit.read_eq fun same => ?_
      obtain _ | ⟨kind, _ | ⟨bytes, _ | ⟨uint, _ | _⟩⟩⟩ := same
      simp only [kind.required (blind_bare _), bytes.nullable (blind_bare _),
        uint.nullable (blind_bare _)]

theorem blind_change (depth : Nat) :
    Blind vocabulary (.record .change) (ScratchChange.decode? depth) := by
  intro json json' edit
  cases depth with
  | zero => rfl
  | succ depth =>
      rw [ScratchChange.decode?, ScratchChange.decode?]
      refine edit.read_eq fun same => ?_
      obtain _ | ⟨slot, _ | ⟨value, _ | _⟩⟩ := same
      simp only [slot.required (blind_bare _),
        value.required (blind_value depth)]

theorem blind_effect (depth : Nat) :
    Blind vocabulary (.record .effect) (OpcodeEffect.decode? depth) := by
  intro json json' edit
  cases depth with
  | zero => rfl
  | succ depth =>
      rw [OpcodeEffect.decode?, OpcodeEffect.decode?]
      refine edit.read_eq fun same => ?_
      obtain _ | ⟨pc, _ | ⟨popCount, _ | ⟨additions, _ | ⟨changes, _ | _⟩⟩⟩⟩ :=
        same
      simp only [pc.required (blind_bare _),
        popCount.withDefault (blind_bare _),
        additions.withDefault (blind_listOf? fun depth _ => blind_value depth),
        changes.withDefault (blind_listOf? fun depth _ => blind_change depth)]

theorem blind_trace (depth : Nat) :
    Blind vocabulary (.record .trace) (ExecutionTrace.decode? depth) := by
  induction depth using Nat.strongRecOn with
  | ind depth induction =>
      intro json json' edit
      cases depth with
      | zero => rfl
      | succ depth =>
          have effects : Blind vocabulary (.list .effect)
              (listOf? OpcodeEffect.decode? depth) :=
            blind_listOf? fun depth _ => blind_effect depth
          have traces : Blind vocabulary (.list .trace)
              (listOf? ExecutionTrace.decode? depth) :=
            blind_listOf? fun smaller less =>
              induction smaller (Nat.lt_succ_of_lt less)
          rw [ExecutionTrace.decode?_succ, ExecutionTrace.decode?_succ]
          refine edit.read_eq fun same => ?_
          obtain _ | ⟨logicSig, _ | ⟨approval, _ | ⟨clearState,
            _ | ⟨inner, _ | _⟩⟩⟩⟩ := same
          simp only [ExecutionTrace.ofFields?, logicSig.withDefault effects,
            approval.withDefault effects, clearState.withDefault effects,
            inner.withDefault traces]

theorem blind_transaction (depth : Nat) :
    Blind vocabulary (.record .transaction)
      (TransactionResult.decode? depth) := by
  intro json json' edit
  cases depth with
  | zero => rfl
  | succ depth =>
      rw [TransactionResult.decode?, TransactionResult.decode?]
      refine edit.read_eq fun same => ?_
      obtain _ | ⟨trace, _ | _⟩ := same
      simp only [trace.nullable (blind_trace depth)]

theorem blind_group (depth : Nat) :
    Blind vocabulary (.record .group) (GroupResult.decode? depth) := by
  intro json json' edit
  cases depth with
  | zero => rfl
  | succ depth =>
      rw [GroupResult.decode?, GroupResult.decode?]
      refine edit.read_eq fun same => ?_
      obtain _ | ⟨transactions, _ | ⟨message, _ | ⟨failedAt, _ | _⟩⟩⟩ := same
      simp only [transactions.withDefault
          (blind_listOf? fun depth _ => blind_transaction depth),
        message.nullable (blind_bare _), failedAt.nullable (blind_bare _)]

theorem blind_simulation (depth : Nat) :
    Blind vocabulary (.record .simulation) (Simulation.decodeAt? depth) := by
  intro json json' edit
  cases depth with
  | zero => rfl
  | succ depth =>
      rw [Simulation.decodeAt?, Simulation.decodeAt?]
      refine edit.read_eq fun same => ?_
      obtain _ | ⟨version, _ | ⟨lastRound, _ | ⟨groups, _ | _⟩⟩⟩ := same
      simp only [version.withDefault (blind_bare _),
        lastRound.withDefault (blind_bare _),
        groups.withDefault (blind_listOf? fun depth _ => blind_group depth)]

theorem blind_launch :
    Blind vocabulary (.record .launch) Debugger.LaunchArguments.decode? := by
  intro json json' edit
  rw [Debugger.LaunchArguments.decode?, Debugger.LaunchArguments.decode?]
  refine edit.read_eq fun same => ?_
  obtain _ | ⟨program, _ | ⟨stopOnEntry, _ | _⟩⟩ := same
  simp only [program.optional (blind_bare _),
    stopOnEntry.optional (blind_bare _)]

/-- The value is read back from its own text, and from the texts of documents
in which members of records stand in another order or are unknown. -/
structure Survives {α : Type} (kind : Kind) (json : Json)
    (decode : Json → Option α) (value : α) : Prop where
  own : (parse? json.write).bind decode = some value
  /-- Whatever the unknown members hold, and however the text is laid out. -/
  edited : ∀ {text : List Char} {document : Json},
    parse? text = some document →
    Edits vocabulary (.record kind) json document →
    (parse? text).bind decode = some value
  /-- As long as the unknown members can be written back themselves. -/
  written : ∀ {document : Json},
    Edits vocabulary (.record kind) json document → Plain document →
    (parse? document.write).bind decode = some value

theorem survives {α : Type} {kind : Kind} {json : Json}
    {decode : Json → Option α} {value : α} (plain : Plain json)
    (read : decode json = some value)
    (blind : Blind vocabulary (.record kind) decode) :
    Survives kind json decode value := by
  have edited : ∀ {text : List Char} {document : Json},
      parse? text = some document →
      Edits vocabulary (.record kind) json document →
      (parse? text).bind decode = some value := by
    intro text document holds edits
    rw [holds, Option.bind_some, ← decode_edits blind edits, read]
  exact
    { own := edited (parse?_write plain) .refl
      edited := edited
      written := fun edits plain => edited (parse?_write plain) edits }

/-- Documents of the protocol are read back, and launch requests take what
they describe. -/
theorem documents_survive :
    (∀ simulation : Simulation, nesting simulation.toJson ≤ maxDepth →
      Survives .simulation simulation.toJson Simulation.decode?
        simulation) ∧
    (∀ value : AvmValue,
      Survives .value value.toJson (AvmValue.decode? maxDepth) value) ∧
    (∀ arguments : Debugger.LaunchArguments,
      Survives .launch arguments.toJson Debugger.LaunchArguments.decode?
        arguments) ∧
    (∀ (arguments : Debugger.LaunchArguments) (document : Json),
      Edits vocabulary (.record .launch) arguments.toJson document →
      Debugger.LaunchArguments.ofRequest document = .ok arguments) := by
  refine ⟨?_, ?_, ?_, ?_⟩
  · intro simulation shallow
    exact survives simulation.plain_toJson
      (Simulation.readsBack maxDepth simulation shallow)
      (blind_simulation maxDepth)
  · intro value
    exact survives value.plain_toJson (value.decode?_toJson (maxDepth - 1))
      (blind_value maxDepth)
  · intro arguments
    exact survives arguments.plain_toJson arguments.decode?_toJson
      blind_launch
  · intro arguments document edits
    apply Debugger.LaunchArguments.ofRequest_of_decode?
    rw [← decode_edits blind_launch edits, arguments.decode?_toJson]

theorem documents_survive_inner :
    (parse? (obj
      [("txn-groups", array [obj [("txn-results", array [obj
         [("txn-result", obj []),
          ("exec-trace", (ExecutionTrace.node [] [] []
            [.node [] [] [] []]).toJson)]])]]),
       ("version", nat 2), ("last-round", nat 10)]).write).bind
        Simulation.decode? =
      some
        { version := 2, lastRound := 10
          groups :=
            [{ transactions := [⟨some (.node [] [] [] [.node [] [] [] []])⟩]
               failureMessage := none, failedAt := none }] } := by
  refine (documents_survive.1 _ (by decide)).written ?_ ?_
  · -- First the groups move to the front, then the transaction gets a member.
    apply Relation.ReflTransGen.tail (.single (.permute
      (@List.perm_append_comm _ [_, _] [_])))
    exact .field [] _ (.tail _ (.tail _ (.head _))) (.item [] []
      (.field [] [] (.head _) (.item [] [] (.add [] (obj []) [_]
        (by decide)))))
  · have single : ∀ {json : Json}, Plain json → Plain (array [json]) :=
      fun plain => .array (List.forall_mem_singleton.mpr plain)
    apply plain_obj
    simp only [List.forall_mem_cons]
    refine ⟨single (plain_obj ?_), .int 2, .int 10, nofun⟩
    rw [List.forall_mem_singleton]
    refine single (plain_obj ?_)
    simp only [List.forall_mem_cons]
    exact ⟨plain_obj nofun, ExecutionTrace.plain_toJson _, nofun⟩

end Protocol

end TealTools

import TealTools.Proofs.Assembly.Branches
import TealTools.Proofs.Assembly.Spelling
import TealTools.Proofs.Disassembly

/-!
# From source to bytecode and back

Bytecode that was assembled without a fault is disassembled into what the
source says.  Its instructions begin where the source map has them, and each
one is spelled by the tokens of its line.
-/

namespace TealTools.Assembly

open Disassembly

/-- The operation of the table that an operation of the source stands for. -/
def tableName (name : String) : String :=
  if name = "int" then "pushint"
  else if name ∈ ["byte", "addr", "method"] then "pushbytes"
  else name

/-- An instruction whose targets are replaced by offsets.  Each offset leads
from the instruction behind the line to the label that the target names. -/
def Resolves (source : String) (line : Nat) (parsed : Instruction (At String))
    (decoded : Instruction Int) : Prop :=
  ∃ offset : At String → Int,
    decoded = parsed.map offset ∧
    ∀ target ∈ parsed.targets, ∃ number,
      DefinedOn source target.value number ∧
      (assemble source).sourceMap.pcFrom (line + 1)
          (assemble source).bytecode.length + offset target =
        (assemble source).sourceMap.pcFrom number
          (assemble source).bytecode.length

/-- An entry of the source map, and the instruction that its line spells. -/
structure Decodes (source : String) (entry : Nat × Nat)
    (found : Nat × Instruction Int) : Prop where
  pc : found.1 = entry.1
  line : ∃ text name parsed opcode,
    sourceLine? source entry.2 = some text ∧
    LineSpells text name parsed ∧
    Opcode.ofCode? found.2.code = some opcode ∧
    opcode.name = tableName name ∧
    Resolves source entry.2 parsed found.2

/-! ## Lines -/

private theorem fits_of_spells {kind : ImmediateKind} {tokens : List Token}
    {operand : Operand (At String)} (spelled : Spells kind tokens operand) :
    Fits kind operand := by
  cases spelled with
  | labels few targets =>
      rw [targets.length_eq] at few
      exact .labels few
  | _ => constructor

private theorem fits_of_spellsAll
    {kinds : List ImmediateKind} {tokens : List Token}
    {operands : List (Operand (At String))}
    (spelled : SpellsAll kinds tokens operands) :
    List.Forall₂ Fits kinds operands := by
  induction spelled with
  | nil => exact .nil
  | cons first _ induction => exact .cons (fits_of_spells first) induction

private theorem tableName_name
    {opcode : Opcode} (member : opcode ∈ Opcode.all) :
    tableName opcode.name = opcode.name := by
  have table : ∀ opcode ∈ Opcode.all,
      tableName opcode.name = opcode.name := by
    decide +kernel
  exact table opcode member

private theorem follows_of_spells {name : String} {tokens : List Token}
    {instruction : Instruction (At String)}
    (spelled : SpellsInstruction name tokens instruction) :
    ∃ opcode, opcode.name = tableName name ∧ Follows opcode instruction := by
  have pushInt : ∀ value, Follows ⟨"pushint", 0x81, [.varuint]⟩
      (pushInt value) := fun value =>
    ⟨by decide, rfl, .cons (.varuint value) .nil⟩
  have pushBytes : ∀ value, Follows ⟨"pushbytes", 0x80, [.bytes]⟩
      (pushBytes value) := fun value =>
    ⟨by decide, rfl, .cons (.bytes value) .nil⟩
  cases spelled with
  | @opcode opcode _ _ member immediates =>
      exact ⟨opcode, (tableName_name member).symm, member, rfl,
        fits_of_spellsAll immediates⟩
  | int => exact ⟨_, by decide, pushInt _⟩
  | byte => exact ⟨_, by decide, pushBytes _⟩
  | address => exact ⟨_, by decide, pushBytes _⟩
  | method => exact ⟨_, by decide, pushBytes _⟩

private theorem readBody_eq_instruction {tokens : List Token}
    {instruction : Instruction (At String)}
    (read : readBody tokens = .instruction (.ok instruction)) :
    ∃ operation arguments name, tokens = operation :: arguments ∧
      operation.word? = some name ∧
      SpellsInstruction name arguments instruction := by
  unfold readBody at read
  split at read
  · cases read
  · rename_i operation arguments
    split at read
    · cases read
    · rename_i name kind
      split at read
      · cases read
      · simp only [Body.instruction.injEq] at read
        have word : operation.word? = some name := by
          rw [Token.word?, kind]
        exact ⟨operation, arguments, name, rfl, word,
          readInstruction_eq_ok read⟩

theorem body_readStatement (token : Token) (tokens : List Token) :
    ∃ behind, BehindLabel (token :: tokens) behind ∧
      (readStatement (token :: tokens)).body = readBody behind := by
  simp only [readStatement]
  cases found : token.word?.bind labelName? with
  | some name =>
      obtain ⟨word, given, named⟩ := Option.bind_eq_some_iff.mp found
      rw [labelName?_eq_some_iff] at named
      exact ⟨tokens, .labelled (named ▸ given), rfl⟩
  | none =>
      refine ⟨token :: tokens, .plain ?_, rfl⟩
      intro name word
      rw [word, Option.bind_some, labelName?_eq_some_iff.mpr rfl] at found
      cases found

/-- An accepted instruction is the one that its line spells. -/
theorem lineSpells_of_accepted {text : List Char}
    {instruction : Instruction (At String)}
    (accepted : accepted? (readLine text) = some instruction) :
    ∃ name, LineSpells text name instruction := by
  unfold accepted? at accepted
  split at accepted
  · rename_i label parsed read
    cases accepted
    unfold readLine at read
    cases scanned : Token.scan text with
    | error fault =>
        rw [scanned] at read
        cases read
    | ok tokens =>
        rw [scanned] at read
        simp only [Except.map, Except.ok.injEq] at read
        cases tokens with
        | nil => cases read
        | cons token tokens =>
            obtain ⟨behind, label, body⟩ := body_readStatement token tokens
            rw [read] at body
            obtain ⟨operation, arguments, name, rfl, word, spelled⟩ :=
              readBody_eq_instruction body.symm
            exact ⟨name, .mk scanned label word spelled⟩
  · cases accepted

theorem LineSpells.follows {text : List Char} {name : String}
    {instruction : Instruction (At String)}
    (spells : LineSpells text name instruction) :
    ∃ opcode, opcode.name = tableName name ∧ Follows opcode instruction := by
  cases spells with
  | mk _ _ _ spelled => exact follows_of_spells spelled

/-! ## Programs -/

/-- The instruction with the offsets of its targets. -/
def Emitted.decoded (labels : List (String × Nat)) (item : Emitted) :
    Instruction Int :=
  item.instruction.map fun target =>
    ((branchOffset labels item.base target.value).toOption.getD 0).toInt

private theorem readCode_emittedFrom (labels : List (String × Nat))
    (offset line : Nat) (lines : List (List Char)) :
    readCode (1 + offset)
        ((emittedFrom offset line (lines.map readLine)).flatMap
          (Emitted.encode labels)) =
      some ((emittedFrom offset line (lines.map readLine)).map fun item =>
        (1 + item.offset, item.decoded labels)) := by
  induction lines generalizing offset line with
  | nil => simp [emittedFrom, readCode]
  | cons text lines induction =>
      rw [List.map_cons, emittedFrom]
      split
      · exact induction offset (line + 1)
      · rename_i instruction accepted
        obtain ⟨name, spells⟩ := lineSpells_of_accepted accepted
        obtain ⟨opcode, _, follows⟩ := spells.follows
        rw [List.flatMap_cons, Emitted.encode,
          readCode_encode (follows.map _), Instruction.length_encode_map,
          Nat.add_assoc, induction, Instruction.map_map]
        rfl

theorem disassemble_of_failure_none {source : String}
    (succeeds : (assemble source).failure = none) :
    Codec.readVaruint (assemble source).bytecode =
        some ((assemble source).version, (assemble source).bytecode.tail) ∧
      disassemble (assemble source).bytecode =
        some ((assemble source).version, (program source).map fun item =>
          (1 + item.offset, item.decoded (lastSite source).labels)) := by
  have header : Codec.readVaruint (assemble source).bytecode =
      some ((assemble source).version, code source) := by
    rw [bytecode_of_failure_none succeeds, ← List.singleton_append,
      ← header_assemble]
    exact Codec.readVaruint_varuint _ _
  have tail : (assemble source).bytecode.tail = code source := by
    rw [bytecode_of_failure_none succeeds, List.tail_cons]
  have size : (assemble source).bytecode.length - (code source).length =
      1 + 0 := by
    rw [bytecode_of_failure_none succeeds, List.length_cons]
    omega
  refine ⟨tail ▸ header, ?_⟩
  rw [disassemble, header]
  simp only [size]
  rw [code_eq, program, readings, readCode_emittedFrom]
  rfl

theorem decodes_of_mem_program {source : String}
    (succeeds : (assemble source).failure = none) {item : Emitted}
    (member : item ∈ program source) :
    Decodes source (1 + item.offset, item.line)
      (1 + item.offset, item.decoded (lastSite source).labels) where
  pc := rfl
  line := by
    obtain ⟨front, reading, back, split, accepted, numbered, _⟩ :=
      mem_emittedFrom member
    obtain ⟨text, here, rfl⟩ := sourceLine?_of_readings split
    obtain ⟨name, spells⟩ := lineSpells_of_accepted accepted
    obtain ⟨opcode, named, follows⟩ := spells.follows
    refine ⟨text, name, item.instruction, opcode, ?_, spells,
      follows.ofCode?, named, _, rfl, ?_⟩
    · simp only
      rw [numbered, Nat.add_comm, here]
    · intro target goal
      obtain ⟨offset, number, resolved, definedOn, sum⟩ :=
        target_of_failure_none succeeds member goal
      refine ⟨number, definedOn, ?_⟩
      simp only
      rw [length_bytecode succeeds, pcFrom_line_succ member, resolved]
      exact sum

/-- The bytecode of a program that does not fail is read back completely, into
its version and the instructions of its lines. -/
theorem disassemble_assemble (source : String)
    (succeeds : (assemble source).failure = none) :
    ∃ instructions,
      disassemble (assemble source).bytecode =
        some ((assemble source).version, instructions) ∧
      1 ≤ (assemble source).version ∧ (assemble source).version ≤ 11 ∧
      Codec.readVaruint (assemble source).bytecode =
        some ((assemble source).version,
          (assemble source).bytecode.tail) ∧
      List.Forall₂ (Decodes source) (assemble source).sourceMap.entries
        instructions := by
  obtain ⟨header, whole⟩ := disassemble_of_failure_none succeeds
  have bounds := version_assemble source
  refine ⟨_, whole, bounds.1, bounds.2, header, ?_⟩
  rw [sourceMap_assemble, List.forall₂_map_left_iff,
    List.forall₂_map_right_iff, List.forall₂_same]
  exact fun item member => decodes_of_mem_program succeeds member

/-- Branches lead back to the first instruction and on to the end. -/
def loopSource : String :=
  "#pragma version 8\nloop: int 1\nswitch loop end\nbyte 0x6162\nend:"

theorem disassemble_assemble_loopSource :
    (assemble loopSource).failure = none ∧
      ∃ instructions,
        disassemble (assemble loopSource).bytecode = some (8, instructions) ∧
        List.Forall₂ (Decodes loopSource) [(1, 2), (3, 3), (9, 4)]
          instructions := by
  have ⟨succeeds, version, entries⟩ :
      (assemble loopSource).failure = none ∧
        (assemble loopSource).version = 8 ∧
        (assemble loopSource).sourceMap.entries =
          [(1, 2), (3, 3), (9, 4)] := by
    decide +kernel
  obtain ⟨instructions, whole, _, _, _, decoded⟩ :=
    disassemble_assemble loopSource succeeds
  rw [version] at whole
  rw [entries] at decoded
  exact ⟨succeeds, instructions, whole, decoded⟩

end TealTools.Assembly

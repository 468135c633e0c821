import TealTools.Proofs.Assembly.BlankLines
import TealTools.Proofs.Assembly.Mapping
import TealTools.Proofs.Token.Pieces

/-!
# Byte constants as they are written

A byte constant is written in one token or in two, and is read as its bytes
whatever stands behind it.  A line that pushes one constant, and a line with a
block of them, add exactly the bytes of the constants to the code.
-/

namespace TealTools.Assembly

open Token (Piece written written_append)

/-- A byte constant as it is written. -/
structure Constant where
  pieces : List Piece
  bytes : Bytes
  legible : ∀ piece ∈ pieces, piece.Legible
  /-- Its tokens are read as its bytes, whatever stands behind them. -/
  read : ∀ tokens : List Token,
    tokens.map Token.kind = pieces.map Piece.kind →
    ∀ missing rest,
      readConstant missing (tokens ++ rest) = .ok (bytes, rest)

/-- The line adds one instruction with the given bytes to the code, which ends
where the next one begins or the code ends, and the line has no fault. -/
structure LineEncodes (source : String) (number : Nat) (bytes : Bytes) :
    Prop where
  faultless : ∀ fault ∈ (assemble source).faults, fault.line ≠ number
  instruction : ∃ front back before after,
    code source = front ++ bytes ++ back ∧
    (assemble source).sourceMap.entries =
      before ++ (1 + front.length, number) :: after ∧
    (after.head?.map Prod.fst).getD (1 + (code source).length) =
      1 + front.length + bytes.length
  bytecode : (assemble source).failure = none →
    (assemble source).bytecode =
      UInt8.ofNat (assemble source).version :: code source

/-- The line has one fault and adds nothing to the code, and the program has no
bytecode. -/
structure LineRefused (source : String) (number : Nat) (fault : At Fault) :
    Prop where
  faults : (assemble source).faults.filter (fun other => other.line = number) =
    [⟨number, fault.column, fault.value⟩]
  /-- The first pass gets no further on the line. -/
  silent : firstPass ((Text.lines source.toList).take number) =
    firstPass ((Text.lines source.toList).take (number - 1))
  unmapped : ∀ entry ∈ (assemble source).sourceMap.entries, entry.2 ≠ number
  noBytecode : (assemble source).bytecode = []

/-- The operations that take any number of byte constants. -/
def blockOpcodes : List Opcode :=
  [⟨"bytecblock", 0x26, [.byteBlock]⟩, ⟨"pushbytess", 0x82, [.byteBlock]⟩]

/-- The operations that take byte constants. -/
def constantOperations : List String :=
  ["byte", "pushbytes", "bytecblock", "pushbytess"]

theorem mem_constantOperations_of_push {operation : String}
    (push : operation ∈ ["byte", "pushbytes"]) :
    operation ∈ constantOperations :=
  List.mem_append_left ["bytecblock", "pushbytess"] push

/-- The names that an encoding can have. -/
def encodingNames : List String := ["base64", "b64", "base32", "b32"]

/-! ## Reading constants -/

theorem readConstants_of_readConstant {missing : At Fault}
    {tokens rest : List Token} {bytes : Bytes}
    (read : readConstant missing tokens = .ok (bytes, rest)) :
    readConstants missing tokens =
      (readConstants missing rest).map (bytes :: ·) := by
  cases tokens with
  | nil => cases read
  | cons token tokens =>
      rw [readConstants]
      split
      · rename_i failed
        rw [read] at failed
        cases failed
      · rename_i again
        rw [read] at again
        cases again
        cases readConstants missing rest <;> rfl

theorem readConstants_pieces (missing : At Fault)
    (constants : List Constant) {tokens : List Token}
    (same : tokens.map Token.kind =
      (constants.flatMap Constant.pieces).map Piece.kind) :
    readConstants missing tokens = .ok (constants.map Constant.bytes) := by
  induction constants generalizing tokens with
  | nil =>
      cases tokens with
      | nil =>
          rw [readConstants]
          rfl
      | cons token tokens => cases same
  | cons constant constants induction =>
      rw [List.flatMap_cons, List.map_append,
        List.map_eq_append_iff] at same
      obtain ⟨front, back, rfl, own, others⟩ := same
      rw [readConstants_of_readConstant (constant.read front own missing back),
        induction others]
      rfl

/-! ## Lines -/

theorem isWord_name {name : String}
    (known : name ∈ encodingNames ++ constantOperations) :
    Token.IsWord name.toList := by
  have visible : (encodingNames ++ constantOperations).all fun name =>
      name.toList.all fun c => !Text.isBlank c && c != '/' := by decide
  have opening : ∀ name ∈ encodingNames ++ constantOperations,
      name.toList ≠ [] ∧ name.toList.head? ≠ some '"' := by decide
  have plain : ∀ c ∈ name.toList, Text.isBlank c = false ∧ c ≠ '/' := by
    simpa using List.all_eq_true.mp visible name known
  obtain ⟨nonempty, unquoted⟩ := opening name known
  exact ⟨Token.unbroken_of_plain plain, nonempty, unquoted⟩

/-- A word as it is written. -/
def wordPiece (text : String) : Piece :=
  ⟨.word text, text.toList⟩

/-- What a line says that begins with the name of an operation. -/
theorem readLine_of_operation {operation : String}
    (plain : operation.toList.head? ≠ some '#')
    (unlabelled : labelName? operation = none) {text : List Char}
    {column : Nat} {tokens : List Token}
    (scanned : Token.scan text =
      .ok (⟨.word operation, column⟩ :: tokens)) :
    readLine text =
      .ok ⟨none, .instruction (readInstruction ⟨column, operation⟩
        tokens)⟩ := by
  rw [readLine, scanned]
  simp [Except.map, readStatement, Token.word?, unlabelled, readBody, plain]

theorem readLine_of_scan {operation : String}
    (known : operation ∈ constantOperations) {text : List Char} {column : Nat}
    {tokens : List Token}
    (scanned : Token.scan text =
      .ok (⟨.word operation, column⟩ :: tokens)) :
    readLine text =
      .ok ⟨none, .instruction (readInstruction ⟨column, operation⟩
        tokens)⟩ := by
  have directives : ∀ operation ∈ constantOperations,
      operation.toList.head? ≠ some '#' := by decide
  have unlabelled : labelName? operation = none := by
    simp only [constantOperations, List.mem_cons, List.not_mem_nil,
      or_false] at known
    rcases known with rfl | rfl | rfl | rfl <;> rfl
  exact readLine_of_operation (directives operation known) unlabelled scanned

theorem readInstruction_byte {column : Nat} {tokens : List Token}
    {bytes : Bytes}
    (read : ∀ missing, readConstant missing tokens = .ok (bytes, [])) :
    readInstruction ⟨column, "byte"⟩ tokens = .ok (pushBytes bytes) := by
  simp only [readInstruction, read]
  rfl

theorem readInstruction_table {operation : At String} {opcode : Opcode}
    (known : Opcode.ofName? operation.value = some opcode)
    (plain : operation.value ∉ ["int", "byte", "addr", "method"])
    (tokens : List Token) :
    readInstruction operation tokens = readOpcode opcode operation tokens := by
  simp only [List.mem_cons, List.not_mem_nil, or_false, not_or] at plain
  unfold readInstruction
  split
  · exact absurd ‹_› plain.1
  · exact absurd ‹_› plain.2.1
  · exact absurd ‹_› plain.2.2.1
  · exact absurd ‹_› plain.2.2.2
  · rw [known]

theorem readInstruction_pushbytes_eq {column : Nat} (tokens : List Token) :
    readInstruction ⟨column, "pushbytes"⟩ tokens =
      readOpcode ⟨"pushbytes", 0x80, [.bytes]⟩ ⟨column, "pushbytes"⟩
        tokens := by
  have known : Opcode.ofName? "pushbytes" =
      some ⟨"pushbytes", 0x80, [.bytes]⟩ := by decide
  have plain : "pushbytes" ∉ ["int", "byte", "addr", "method"] := by decide
  exact readInstruction_table known plain tokens

theorem readInstruction_pushbytes {column : Nat} {tokens : List Token}
    {bytes : Bytes}
    (read : ∀ missing, readConstant missing tokens = .ok (bytes, [])) :
    readInstruction ⟨column, "pushbytes"⟩ tokens = .ok (pushBytes bytes) := by
  rw [readInstruction_pushbytes_eq]
  simp only [readOpcode, readOperands, readOperand, read]
  rfl

theorem readInstruction_push {operation : String}
    (push : operation ∈ ["byte", "pushbytes"]) {column : Nat}
    {tokens : List Token} {bytes : Bytes}
    (read : ∀ missing, readConstant missing tokens = .ok (bytes, [])) :
    readInstruction ⟨column, operation⟩ tokens = .ok (pushBytes bytes) := by
  simp only [List.mem_cons, List.not_mem_nil, or_false] at push
  rcases push with rfl | rfl
  · exact readInstruction_byte read
  · exact readInstruction_pushbytes read

theorem readInstruction_block {opcode : Opcode}
    (block : opcode ∈ blockOpcodes) {column : Nat} {tokens : List Token}
    {values : List Bytes}
    (read : ∀ missing, readConstants missing tokens = .ok values) :
    readInstruction ⟨column, opcode.name⟩ tokens =
      .ok ⟨opcode.code, [.strings values]⟩ := by
  have table : ∀ opcode ∈ blockOpcodes,
      Opcode.ofName? opcode.name = some opcode ∧
      opcode.name ∉ ["int", "byte", "addr", "method"] ∧
      opcode.immediates = [.byteBlock] := by decide
  obtain ⟨known, plain, immediates⟩ := table opcode block
  rw [readInstruction_table known plain]
  simp only [readOpcode, immediates, readOperands, readOperand, read]
  rfl

/-! ## Encoded lines -/

private theorem length_flatMap_encode (labels : List (String × Nat))
    (items : List Emitted) :
    (items.flatMap (Emitted.encode labels)).length =
      (draftCode items).length := by
  simp only [draftCode, List.length_flatMap, Emitted.encode,
    Instruction.length_encode_map, Instruction.size]

private theorem filter_faults_of_elsewhere {labels : List (String × Nat)}
    {number : Nat} {placed : List Placed}
    (elsewhere : ∀ line ∈ placed, line.line ≠ number) :
    (placed.flatMap (Placed.allFaults labels)).filter
      (fun fault => fault.line = number) = [] := by
  rw [List.filter_eq_nil_iff]
  intro fault member
  obtain ⟨line, listed, own⟩ := List.mem_flatMap.mp member
  obtain ⟨cause, _, rfl⟩ := List.mem_map.mp own
  simpa using elsewhere line listed

/-- The faults with the number of a line are those that placing it finds. -/
theorem faults_of_readings {source : String}
    {front back : List (Reading Statement)} {reading : Reading Statement}
    (split : readings source = front ++ reading :: back) :
    (assemble source).faults.filter
        (fun fault => fault.line = 1 + front.length) =
      ((Site.start.placeAll 1 front).1.place (1 + front.length)
        reading).2.allFaults (lastSite source).labels := by
  have whole : (assemble source).faults =
      (placedLines source).flatMap
        (Placed.allFaults (lastSite source).labels) := rfl
  rw [whole, placedLines, split, placeAll_append, placeAll_cons,
    List.flatMap_append, List.flatMap_cons, List.filter_append,
    List.filter_append, filter_faults_of_elsewhere,
    filter_faults_of_elsewhere, List.nil_append, List.append_nil]
  · rw [List.filter_eq_self]
    intro fault member
    rw [allFaults_place] at member
    obtain ⟨cause, _, rfl⟩ := List.mem_map.mp member
    exact decide_eq_true rfl
  · intro placed member
    have bounds := bounds_of_mem_placeAll member
    omega
  · intro placed member
    have bounds := bounds_of_mem_placeAll member
    omega

/-- A line that holds an instruction without branches has no fault. -/
private theorem faultless_of_readings {source : String}
    {front back : List (Reading Statement)}
    {instruction : Instruction (At String)}
    (split : readings source =
      front ++ .ok ⟨none, .instruction (.ok instruction)⟩ :: back)
    (closed : instruction.targets = []) :
    ∀ fault ∈ (assemble source).faults, fault.line ≠ 1 + front.length := by
  have none := faults_of_readings split
  -- Neither the missing label nor the instruction has a fault.
  simp only [Site.place, Site.placeLabel, Site.placeBody, Placed.allFaults,
    Placed.branchFaults, closed, List.filterMap_nil, List.append_nil,
    List.map_nil, List.filter_eq_nil_iff, decide_eq_true_eq] at none
  exact none

/-- A line that holds an instruction without branches adds its bytes to the
code. -/
theorem lineEncodes_of_readLine {source : String} {number : Nat}
    {text : List Char} {instruction : Instruction (At String)}
    {bytes : Bytes} (line : sourceLine? source number = some text)
    (read : readLine text = .ok ⟨none, .instruction (.ok instruction)⟩)
    (closed : instruction.targets = [])
    (encoded : ∀ offsets : At String → Int16,
      (instruction.map offsets).encode = bytes) :
    LineEncodes source number bytes := by
  obtain ⟨front, back, split, rfl⟩ := readings_of_sourceLine? line
  rw [read] at split
  refine ⟨faultless_of_readings split closed, ?_, bytecode_of_failure_none⟩
  have whole := code_eq source
  generalize (lastSite source).labels = labels at whole
  let before := emittedFrom 0 1 front
  let item : Emitted :=
    ⟨(draftCode before).length, 1 + front.length, instruction⟩
  let after := emittedFrom item.base (1 + front.length + 1) back
  have items : program source = before ++ item :: after := by
    rw [program, split, emittedFrom_append, emittedFrom]
    simp only [accepted?, Nat.zero_add]
    rfl
  have own : item.encode labels = bytes := encoded _
  have size : instruction.size = bytes.length := by
    rw [← encoded fun _ => 0, Instruction.length_encode_map]
  have length := length_flatMap_encode labels before
  refine ⟨before.flatMap (Emitted.encode labels),
    after.flatMap (Emitted.encode labels),
    before.map fun item => (1 + item.offset, item.line),
    after.map fun item => (1 + item.offset, item.line), ?_, ?_, ?_⟩
  · rw [whole, items, List.flatMap_append, List.flatMap_cons, own,
      List.append_assoc]
  · rw [sourceMap_assemble, items, List.map_append, List.map_cons, length]
  · cases behind : after with
    | nil =>
        rw [whole, items, behind, List.flatMap_append, List.length_append,
          List.flatMap_singleton, own]
        simp only [List.map_nil, List.head?_nil, Option.map_none,
          Option.getD_none]
        omega
    | cons next more =>
        have place : next.offset = item.base := offset_head_emittedFrom behind
        simp only [List.map_cons, List.head?_cons, Option.map_some,
          Option.getD_some, place, Emitted.base, item, size, length]
        omega

/-- A line whose instruction is refused has the fault of the instruction. -/
theorem lineRefused_of_readLine {source : String} {number : Nat}
    {text : List Char} {fault : At Fault}
    (line : sourceLine? source number = some text)
    (read : readLine text = .ok ⟨none, .instruction (.error fault)⟩) :
    LineRefused source number fault := by
  have refused : ∀ instruction, ¬ HoldsInstruction text instruction := by
    intro instruction holds
    have accepted := accepted?_readLine_iff.mpr holds
    rw [read] at accepted
    cases accepted
  obtain ⟨front, back, split, numbered⟩ := readings_of_sourceLine? line
  have faults : (assemble source).faults.filter
      (fun other => other.line = number) =
        [⟨number, fault.column, fault.value⟩] := by
    rw [read] at split
    rw [numbered, faults_of_readings split]
    rfl
  refine ⟨faults, ?_, ?_, ?_⟩
  · cases number with
    | zero => rfl
    | succ index =>
        have here : (Text.lines source.toList)[index]? = some text := line
        rw [List.take_add_one, here, Nat.add_sub_cancel]
        exact firstPass_of_refused refused _
  · rintro ⟨pc, other⟩ member rfl
    obtain ⟨item, listed, -, rfl⟩ := mem_entries_iff.mp member
    obtain ⟨own, here, holds⟩ := holds_of_mem_program listed
    obtain rfl : text = own := Option.some.inj (line.symm.trans here)
    exact refused _ holds
  · rw [bytecode_eq_nil_iff, ne_eq, failure_eq_none_iff]
    rintro ⟨clean, -⟩
    rw [clean] at faults
    cases faults

/-- A line that is read as a push of bytes. -/
theorem lineEncodes_of_push {source : String} {number : Nat}
    {text : List Char} {bytes : Bytes}
    (line : sourceLine? source number = some text)
    (read : readLine text =
      .ok ⟨none, .instruction (.ok (pushBytes bytes))⟩) :
    LineEncodes source number
      (0x80 :: (Codec.varuint bytes.length ++ bytes)) := by
  apply lineEncodes_of_readLine line read rfl
  intro offsets
  simp [pushBytes, Instruction.map, Instruction.encode, Operand.map,
    Operand.encode, Operand.encodeString, Opcode.pushBytesCode]

/-- A line that is read as a block of byte strings. -/
theorem lineEncodes_of_strings {source : String} {number : Nat}
    {text : List Char} {code : UInt8} {values : List Bytes}
    (line : sourceLine? source number = some text)
    (read : readLine text =
      .ok ⟨none, .instruction (.ok ⟨code, [.strings values]⟩)⟩) :
    LineEncodes source number (code ::
      (Codec.varuint values.length ++ values.flatMap fun value =>
        Codec.varuint value.length ++ value)) := by
  apply lineEncodes_of_readLine line read rfl
  intro offsets
  simp only [Instruction.map, Instruction.encode, List.map_cons, List.map_nil,
    Operand.map, List.flatMap_singleton, Operand.encode]
  rfl

/-! ## Texts -/

theorem Constant.pieces_ne_nil (constant : Constant) :
    constant.pieces ≠ [] := by
  intro empty
  have read := constant.read [] (by rw [empty]; rfl) ⟨0, .unterminatedString⟩ []
  cases read

/-- The constant as it stands in a line. -/
def Constant.text (constant : Constant) : String :=
  String.ofList (written constant.pieces)

private theorem written_constants {pieces : List Piece} (nonempty : pieces ≠ [])
    (constants : List Constant) :
    written (pieces ++ constants.flatMap Constant.pieces) =
      [' '].intercalate (written pieces ::
        constants.map fun constant => constant.text.toList) := by
  induction constants generalizing pieces with
  | nil => simp
  | cons constant constants induction =>
      have more : constant.pieces ++ constants.flatMap Constant.pieces ≠ [] :=
        List.append_ne_nil_of_left_ne_nil constant.pieces_ne_nil _
      rw [List.flatMap_cons, written_append nonempty more,
        induction constant.pieces_ne_nil, List.map_cons,
        List.intercalate_cons_cons]
      simp [Constant.text]

/-- The line of an operation with constants. -/
def constantLine (operation : String) (constants : List Constant) : String :=
  " ".intercalate (operation :: constants.map Constant.text)

private theorem toList_constantLine (operation : String)
    (constants : List Constant) :
    (constantLine operation constants).toList =
      written (wordPiece operation ::
        constants.flatMap Constant.pieces) := by
  have whole := written_constants (List.cons_ne_nil (wordPiece operation) [])
    constants
  rw [List.singleton_append] at whole
  rw [whole, constantLine, String.toList_intercalate]
  simp [written, wordPiece, Function.comp_def]

/-! ## Encodings by name -/

/-- How a payload is attached to the name of its encoding. -/
inductive Attachment where
  | separate
  | bracketed
  deriving DecidableEq, Repr

namespace Attachment

def write (encoding payload : String) : Attachment → String
  | separate => encoding ++ " " ++ payload
  | bracketed => encoding ++ "(" ++ payload ++ ")"

def pieces (encoding payload : String) : Attachment → List Piece
  | separate => [wordPiece encoding, wordPiece payload]
  | bracketed => [wordPiece (encoding ++ "(" ++ payload ++ ")")]

end Attachment

theorem toList_write (encoding payload : String) (form : Attachment) :
    (form.write encoding payload).toList =
      written (form.pieces encoding payload) := by
  cases form with
  | separate =>
      simp [Attachment.write, Attachment.pieces, written, wordPiece]
  | bracketed =>
      simp [Attachment.write, Attachment.pieces, written, wordPiece]

private theorem bracketed?_write
    {encoding : String} (plain : '(' ∉ encoding.toList)
    (payload : String) :
    bracketed? (encoding ++ "(" ++ payload ++ ")").toList =
      some (encoding, payload) := by
  have name : ∀ c ∈ encoding.toList, decide (c ≠ '(') = true := by
    intro c member
    exact decide_eq_true fun same => plain (same ▸ member)
  have backwards : (encoding ++ "(" ++ payload ++ ")").toList.reverse =
      ')' :: (encoding.toList ++ '(' :: payload.toList).reverse := by
    simp
  simp only [bracketed?, backwards, List.reverse_reverse]
  rw [List.dropWhile_append_of_pos name, List.takeWhile_append_of_pos name]
  simp

theorem letters_of_encoding {encoding : String}
    (named : encoding ∈ encodingNames) :
    encoding.toList.head? = some 'b' ∧ '(' ∉ encoding.toList ∧
      ')' ∉ encoding.toList := by
  have letters : ∀ encoding ∈ encodingNames,
      encoding.toList.head? = some 'b' ∧ '(' ∉ encoding.toList ∧
        ')' ∉ encoding.toList := by decide
  exact letters encoding named

theorem constantForm_encoding {encoding : String}
    (named : encoding ∈ encodingNames) (column : Nat) :
    constantForm ⟨.word encoding, column⟩ = .ok (.encoded encoding) := by
  simp only [encodingNames, List.mem_cons, List.not_mem_nil, or_false] at named
  rcases named with rfl | rfl | rfl | rfl <;> rfl

theorem decodeNamed_of_decoder? {encoding payload : String}
    {decode : List Char → Option Bytes} {bytes : Bytes}
    (known : decoder? encoding = some decode)
    (decoded : decode payload.toList = some bytes) :
    decodeNamed encoding payload = .ok bytes := by
  simp only [decodeNamed, known, decoded]

theorem constantForm_bracketed {encoding payload : String} {bytes : Bytes}
    (named : encoding ∈ encodingNames)
    (decoded : decodeNamed encoding payload = .ok bytes) (column : Nat) :
    constantForm ⟨.word (encoding ++ "(" ++ payload ++ ")"), column⟩ =
      .ok (.complete bytes) := by
  obtain ⟨letter, plain, _⟩ := letters_of_encoding named
  have split := bracketed?_write plain payload
  unfold constantForm
  simp only
  split
  · rename_i hexadecimal
    have first := congrArg List.head? hexadecimal
    simp [letter] at first
  · rw [split]
    simp only [decoded]
    rfl

/-- The tokens of a payload and its encoding are read as the bytes of the
payload. -/
theorem readConstant_attached {encoding payload : String} {bytes : Bytes}
    (named : encoding ∈ encodingNames)
    (decoded : decodeNamed encoding payload = .ok bytes)
    (form : Attachment) {tokens : List Token}
    (same : tokens.map Token.kind =
      (form.pieces encoding payload).map Piece.kind)
    (missing : At Fault) (rest : List Token) :
    readConstant missing (tokens ++ rest) = .ok (bytes, rest) := by
  cases form with
  | separate =>
      obtain ⟨first, _, rfl, word, more⟩ := List.map_eq_cons_iff.mp same
      obtain ⟨second, _, rfl, text, none⟩ := List.map_eq_cons_iff.mp more
      cases List.map_eq_nil_iff.mp none
      obtain ⟨_, column⟩ := first
      obtain ⟨_, place⟩ := second
      cases word
      cases text
      have announced := constantForm_encoding named column
      refine bind_eq_ok.mpr ⟨_, located_eq_ok.mpr announced, ?_⟩
      exact bind_eq_ok.mpr ⟨bytes, located_eq_ok.mpr decoded, rfl⟩
  | bracketed =>
      obtain ⟨first, _, rfl, word, none⟩ := List.map_eq_cons_iff.mp same
      cases List.map_eq_nil_iff.mp none
      obtain ⟨_, column⟩ := first
      cases word
      have announced := constantForm_bracketed named decoded column
      exact bind_eq_ok.mpr ⟨_, located_eq_ok.mpr announced, rfl⟩

theorem isWord_bracketed {encoding payload : String}
    (named : encoding ∈ encodingNames)
    (unbroken : Token.Unbroken payload.toList) :
    Token.IsWord (encoding ++ "(" ++ payload ++ ")").toList := by
  have name := isWord_name (List.mem_append_left _ named)
  have text : (encoding ++ "(" ++ payload ++ ")").toList =
      encoding.toList ++ '(' :: (payload.toList ++ ')' :: []) := by simp
  rw [text]
  refine ⟨name.toUnbroken.append_cons
    (unbroken.append_cons ⟨by simp, by decide⟩ ?_ ?_) ?_ ?_, ?_, ?_⟩
  · decide
  · decide
  · decide
  · decide
  · simp
  · obtain ⟨c, rest, same⟩ := List.exists_cons_of_ne_nil name.nonempty
    have unquoted := name.unquoted
    rw [same] at unquoted ⊢
    exact unquoted

/-- A payload with the name of its encoding is a constant.  Behind a space it
has to be a word. -/
def encodedConstant {encoding payload : String} {bytes : Bytes}
    (named : encoding ∈ encodingNames)
    (decoded : decodeNamed encoding payload = .ok bytes)
    (word : Token.IsWord payload.toList) (form : Attachment) : Constant where
  pieces := form.pieces encoding payload
  bytes := bytes
  legible := by
    cases form with
    | separate =>
        simp only [Attachment.pieces, List.mem_cons, List.not_mem_nil,
          or_false, forall_eq_or_imp, forall_eq]
        exact ⟨.word (isWord_name (List.mem_append_left _ named)),
          .word word⟩
    | bracketed =>
        simp only [Attachment.pieces, List.mem_singleton, forall_eq]
        exact .word (isWord_bracketed named word.toUnbroken)
  read := fun _ same missing rest =>
    readConstant_attached named decoded form same missing rest

/-! ## Lines with constants -/

theorem readLine_constantLine {operation : String}
    (known : operation ∈ constantOperations) (constants : List Constant) :
    ∃ tokens : List Token,
      tokens.map Token.kind =
        (constants.flatMap Constant.pieces).map Piece.kind ∧
      readLine (constantLine operation constants).toList =
        .ok ⟨none, .instruction (readInstruction ⟨1, operation⟩ tokens)⟩ := by
  have legible : ∀ piece ∈ wordPiece operation ::
      constants.flatMap Constant.pieces, piece.Legible := by
    rw [List.forall_mem_cons]
    refine ⟨.word (isWord_name (List.mem_append_right _ known)), ?_⟩
    intro piece member
    obtain ⟨constant, _, own⟩ := List.mem_flatMap.mp member
    exact constant.legible piece own
  have scanned := Token.scan_written legible
  rw [← toList_constantLine] at scanned
  exact ⟨_, Token.map_kind_tokensFrom _ _, readLine_of_scan known scanned⟩

/-- A line that pushes one constant. -/
theorem lineEncodes_push {source : String} {number : Nat}
    {operation : String} (push : operation ∈ ["byte", "pushbytes"])
    (constant : Constant)
    (line : sourceLine? source number =
      some (constantLine operation [constant]).toList) :
    LineEncodes source number (0x80 ::
      (Codec.varuint constant.bytes.length ++ constant.bytes)) := by
  obtain ⟨tokens, same, read⟩ := readLine_constantLine
    (mem_constantOperations_of_push push) [constant]
  rw [List.flatMap_singleton] at same
  have whole missing := constant.read tokens same missing []
  simp only [List.append_nil] at whole
  rw [readInstruction_push push whole] at read
  exact lineEncodes_of_push line read

/-- A line with a block of constants. -/
theorem lineEncodes_block {source : String} {number : Nat}
    {opcode : Opcode} (block : opcode ∈ blockOpcodes)
    (constants : List Constant)
    (line : sourceLine? source number =
      some (constantLine opcode.name constants).toList) :
    LineEncodes source number (opcode.code ::
      (Codec.varuint constants.length ++ constants.flatMap fun constant =>
        Codec.varuint constant.bytes.length ++ constant.bytes)) := by
  have names : ∀ opcode ∈ blockOpcodes,
      opcode.name ∈ constantOperations := by decide
  obtain ⟨tokens, same, read⟩ :=
    readLine_constantLine (names opcode block) constants
  rw [readInstruction_block block fun missing =>
    readConstants_pieces missing constants same] at read
  simpa only [List.length_map, List.flatMap_map] using
    lineEncodes_of_strings line read

end TealTools.Assembly

import TealTools.Proofs.Assembly.Constants
import TealTools.Proofs.Token.Rendering

/-!
# Integers in every spelling

An integer can be written in decimal, in hexadecimal, in octal or by name.  A
line with integers holds the same code in whatever way they are spelled, and a
numeral that is too large is a fault of its token.
-/

namespace TealTools.Assembly

open Text (SpellsIn)
open Token (Follows IsRun IsWord Row Trails)

/-! ## Spellings -/

/-- The texts of an integer in digits. -/
inductive IntNumeral : List Char → Nat → Prop where
  | decimal (value : Nat) : IntNumeral (Nat.toDigits 10 value) value
  | hexadecimal {digits : List Char} {value : Nat} :
      SpellsIn 16 digits value → IntNumeral ('0' :: 'x' :: digits) value
  | octal {digits : List Char} {value : Nat} :
      SpellsIn 8 digits value → IntNumeral ('0' :: digits) value

/-- The texts of an integer. -/
inductive DenotesInt : List Char → Nat → Prop where
  | numeral {text : List Char} {value : Nat} :
      IntNumeral text value → DenotesInt text value
  | named {name : String} {value : Nat} :
      (name, value) ∈ Opcode.intNames → DenotesInt name.toList value

/-- Integers as they are written, each behind a run that is not empty. -/
inductive WritesInts : Row → List Nat → Prop where
  | nil : WritesInts [] []
  | cons {run : List Char} {text : String} {value : Nat} {row : Row}
      {values : List Nat} :
      IsRun run → run ≠ [] → DenotesInt text.toList value →
      WritesInts row values →
      WritesInts ((run, wordPiece text) :: row) (value :: values)

/-- The operations that take any number of integers. -/
def intBlockOpcodes : List Opcode :=
  [⟨"intcblock", 0x20, [.intBlock]⟩, ⟨"pushints", 0x83, [.intBlock]⟩]

/-- The operations that take integers. -/
def intOperations : List String :=
  ["intcblock", "pushints", "int", "pushint"]

/-- Immediates of an operation of the table. -/
def readImmediates (opcode : Opcode) (column : Nat) :
    List ImmediateKind → List Token →
      Reading (List (Operand (At String)) × List Token) :=
  let operation : At String := ⟨column, opcode.name⟩
  readOperands operation (countFault operation opcode.immediates.length)

/-- A line with an operation, pieces behind it and maybe a comment. -/
def operationLine (leading : List Char) (operation : String) (row : Row)
    (trail : List Char) : List Char :=
  leading ++ (operation.toList ++ (row.text ++ trail))

/-! ## Words -/

private theorem head?_numeral {text : List Char} {value : Nat}
    (numeral : IntNumeral text value) :
    ∃ c, text.head? = some c ∧ c.isDigit = true := by
  cases numeral with
  | decimal value =>
      obtain ⟨c, rest, digits⟩ :=
        List.exists_cons_of_ne_nil (@Nat.toDigits_ne_nil value 10)
      have member : c ∈ Nat.toDigits 10 value := digits ▸ List.mem_cons_self
      exact ⟨c, by rw [digits]; rfl, Text.isDigit_of_mem_toDigits member⟩
  | hexadecimal => exact ⟨'0', rfl, rfl⟩
  | octal => exact ⟨'0', rfl, rfl⟩

private theorem isWord_numeral {text : List Char} {value : Nat}
    (numeral : IntNumeral text value) : IsWord text := by
  obtain ⟨c, head, -⟩ := head?_numeral numeral
  have nonempty : text ≠ [] := by
    rintro rfl
    cases head
  apply Token.isWord_of_isAlphanum nonempty
  cases numeral with
  | decimal value =>
      have read :=
        Text.digitsValue?_toDigits (by decide : 1 < 10) (by decide) value
      exact Text.forall_mem_of_digitsValue? Text.isAlphanum_of_digitValue? read
  | hexadecimal spells =>
      have read := spells.digitsValue? (by decide) (by decide)
      simp only [List.forall_mem_cons]
      exact ⟨rfl, rfl, Text.forall_mem_of_digitsValue?
        Text.isAlphanum_of_digitValue? read⟩
  | octal spells =>
      have read := spells.digitsValue? (by decide) (by decide)
      simp only [List.forall_mem_cons]
      exact ⟨rfl, Text.forall_mem_of_digitsValue?
        Text.isAlphanum_of_digitValue? read⟩

private theorem isWord_of_denotesInt {text : List Char} {value : Nat}
    (denotes : DenotesInt text value) : IsWord text := by
  cases denotes with
  | numeral numeral => exact isWord_numeral numeral
  | @named name value known =>
      have letters : ∀ entry ∈ Opcode.intNames, entry.1.toList ≠ [] ∧
          entry.1.toList.all Char.isAlphanum = true := by decide
      obtain ⟨nonempty, alphanumeric⟩ := letters _ known
      exact Token.isWord_of_isAlphanum nonempty
        (List.all_eq_true.mp alphanumeric)

/-! ## Reading -/

private theorem namedInt?_of_mem {name : String} {value : Nat}
    (known : (name, value) ∈ Opcode.intNames) :
    Opcode.namedInt? name = some value ∧ value < UInt64.size := by
  have table : ∀ entry ∈ Opcode.intNames,
      Opcode.namedInt? entry.1 = some entry.2 ∧
        entry.2 < UInt64.size := by decide
  exact table _ known

private theorem namedInt?_of_numeral {text : String} {value : Nat}
    (numeral : IntNumeral text.toList value) :
    Opcode.namedInt? text = none := by
  obtain ⟨c, head, digit⟩ := head?_numeral numeral
  rw [Option.eq_none_iff_forall_ne_some]
  intro number named
  have letters : ∀ entry ∈ Opcode.intNames,
      entry.1.toList.head?.any Char.isDigit = false := by decide
  obtain ⟨front, back, split, -⟩ := List.lookup_eq_some_iff.mp named
  have letter := letters (text, number) (by rw [split]; simp)
  rw [head] at letter
  simp [digit] at letter

/-- A numeral is read in its own way, up to the bound. -/
theorem uint?_of_numeral {text : String} {value : Nat}
    (numeral : IntNumeral text.toList value) :
    uint? text = if value < UInt64.size then some value else none := by
  have unnamed := namedInt?_of_numeral numeral
  generalize letters : text.toList = digits at numeral
  simp only [uint?, unnamed, letters]
  cases numeral with
  | decimal value =>
      have read := Text.digits?_of_digitsValue? Nat.toDigits_ne_nil
        (Text.digitsValue?_toDigits (by decide : 1 < 10) (by decide) value)
      rcases Nat.eq_zero_or_pos value with rfl | positive
      · rfl
      · -- No zero stands in front.
        have head := Text.head?_toDigits (by decide : 1 < 10) positive
        split
        · rename_i same
          exact absurd (congrArg List.head? same) head
        · rename_i same
          exact absurd (congrArg List.head? same) head
        · rename_i same
          exact absurd (congrArg List.head? same) head
        · exact Text.nat?_of_digits? read
  | hexadecimal spells =>
      exact Text.nat?_of_digits? (spells.digits? (by decide) (by decide))
  | octal spells =>
      have read := spells.digits? (by decide) (by decide)
      obtain ⟨c, digit, head, first⟩ := Text.head?_of_digits? read
      obtain ⟨rest, rfl⟩ := List.head?_eq_some_iff.mp head
      split
      · rename_i same
        cases same
        cases first
      · rename_i same
        cases same
      · rename_i same
        cases same
        exact Text.nat?_of_digits? read
      · rename_i other
        exact absurd rfl (other (c :: rest))

theorem uint?_of_denotesInt {text : String} {value : Nat}
    (denotes : DenotesInt text.toList value) :
    uint? text = if value < UInt64.size then some value else none := by
  generalize letters : text.toList = own at denotes
  cases denotes with
  | numeral numeral => exact uint?_of_numeral (letters ▸ numeral)
  | @named name value known =>
      obtain rfl := String.toList_injective letters
      obtain ⟨named, small⟩ := namedInt?_of_mem known
      simp only [uint?, named, if_pos small]

theorem readUint_of_denotesInt (token : Token) {value : Nat}
    (denotes : DenotesInt token.text.toList value) :
    readUint token =
      if value < UInt64.size then .ok value
      else .error ⟨token.column, .invalidInteger token.text⟩ := by
  rw [readUint, uint?_of_denotesInt denotes]
  by_cases small : value < UInt64.size
  · simp only [if_pos small]
  · simp only [if_neg small]

private theorem mapM_readUint_of_writesInts {row : Row} {values : List Nat}
    (writes : WritesInts row values)
    (small : ∀ value ∈ values, value < UInt64.size) (before : Nat) :
    (row.tokens before).mapM readUint = .ok values := by
  induction writes generalizing before with
  | nil => rfl
  | @cons run text value row values _ _ denotes _ induction =>
      obtain ⟨first, others⟩ := List.forall_mem_cons.mp small
      have read : readUint ⟨.word text, 1 + (before + run.length)⟩ =
          .ok value :=
        (readUint_of_denotesInt ⟨.word text, _⟩ denotes).trans (if_pos first)
      rw [Row.tokens, List.mapM_cons]
      simp only [wordPiece, read, induction others]
      rfl

/-- The first integer that is too large is the fault of a block. -/
private theorem mapM_readUint_of_large {front : Row} {values : List Nat}
    (writes : WritesInts front values)
    (small : ∀ value ∈ values, value < UInt64.size) {run : List Char}
    {text : String} {value : Nat} (numeral : IntNumeral text.toList value)
    (large : UInt64.size ≤ value) (back : Row) (before : Nat) :
    (Row.tokens before (front ++ (run, wordPiece text) :: back)).mapM
        readUint =
      .error ⟨1 + (before + front.text.length + run.length),
        .invalidInteger text⟩ := by
  have refused : readUint
      ⟨.word text, 1 + (before + front.text.length + run.length)⟩ =
        .error ⟨1 + (before + front.text.length + run.length),
          .invalidInteger text⟩ :=
    (readUint_of_denotesInt ⟨.word text, _⟩ (.numeral numeral)).trans
      (if_neg (Nat.not_lt_of_le large))
  rw [Row.tokens_append, List.mapM_append,
    mapM_readUint_of_writesInts writes small, Row.tokens, List.mapM_cons]
  simp only [wordPiece, refused]
  rfl

theorem readInstruction_intBlock {opcode : Opcode}
    (block : opcode ∈ intBlockOpcodes) (column : Nat) (tokens : List Token) :
    readInstruction ⟨column, opcode.name⟩ tokens =
      (tokens.mapM readUint).map fun values =>
        ⟨opcode.code, [.ints values]⟩ := by
  have table : ∀ opcode ∈ intBlockOpcodes,
      Opcode.ofName? opcode.name = some opcode ∧
      opcode.name ∉ ["int", "byte", "addr", "method"] ∧
      opcode.immediates = [.intBlock] := by decide
  obtain ⟨known, plain, immediates⟩ := table opcode block
  rw [readInstruction_table known plain]
  simp only [readOpcode, immediates, readOperands, readOperand]
  cases tokens.mapM readUint <;> rfl

theorem readInstruction_intPush {operation : String}
    (push : operation ∈ ["int", "pushint"]) (column : Nat) (token : Token) :
    readInstruction ⟨column, operation⟩ [token] =
      (readUint token).map pushInt := by
  simp only [List.mem_cons, List.not_mem_nil, or_false] at push
  rcases push with rfl | rfl
  · simp only [readInstruction, readSingle, readToken, finished, bind,
      Except.bind]
    cases readUint token <;> rfl
  · have known : Opcode.ofName? "pushint" =
        some ⟨"pushint", 0x81, [.varuint]⟩ := by decide
    have plain : "pushint" ∉ ["int", "byte", "addr", "method"] := by decide
    rw [readInstruction_table known plain]
    simp only [readOpcode, readOperands, readOperand, readToken, bind,
      Except.bind]
    cases readUint token <;> rfl

/-! ## Lines -/

private theorem not_mem_of_isWord {text : List Char} (word : IsWord text) :
    '\n' ∉ text := by
  intro member
  cases word.visible _ member

private theorem follows_word
    {run : List Char} {text : String} (isRun : IsRun run)
    (parted : run ≠ []) (word : IsWord text.toList) :
    Follows (run, wordPiece text) :=
  ⟨isRun, parted, .word word, not_mem_of_isWord word⟩

private theorem follows_of_writesInts {row : Row} {values : List Nat}
    (writes : WritesInts row values) : ∀ entry ∈ row, Follows entry := by
  induction writes with
  | nil => nofun
  | cons isRun parted denotes _ induction =>
      exact List.forall_mem_cons.mpr
        ⟨follows_word isRun parted (isWord_of_denotesInt denotes), induction⟩

theorem readLine_operationLine {operation : String}
    (known : operation ∈ intOperations) {leading trail : List Char}
    (indented : IsRun leading) (trails : Trails trail) {row : Row}
    (behind : ∀ entry ∈ row, Follows entry) :
    readLine (operationLine leading operation row trail) =
      .ok ⟨none, .instruction (readInstruction
        ⟨1 + leading.length, operation⟩
        (row.tokens (leading.length + operation.toList.length)))⟩ := by
  have letters : ∀ operation ∈ intOperations, operation.toList ≠ [] ∧
      operation.toList.all Char.isAlphanum = true ∧
      operation.toList.head? ≠ some '#' ∧
      labelName? operation = none := by decide
  obtain ⟨nonempty, alphanumeric, plain, unlabelled⟩ := letters operation known
  have word := Token.isWord_of_isAlphanum nonempty
    (List.all_eq_true.mp alphanumeric)
  have laidOut := Row.laidOut_cons indented (.word word)
    (not_mem_of_isWord word) behind
  have scanned := Token.scanFrom_row laidOut trails 0
  have whole : Row.text ((leading, wordPiece operation) :: row) ++ trail =
      operationLine leading operation row trail := by
    simp [Row.text, operationLine, wordPiece]
  apply readLine_of_operation plain unlabelled
  rw [← whole]
  simpa [Token.scan, Row.tokens, wordPiece] using scanned

private theorem name_mem_intOperations {opcode : Opcode}
    (block : opcode ∈ intBlockOpcodes) : opcode.name ∈ intOperations := by
  have names : ∀ opcode ∈ intBlockOpcodes,
      opcode.name ∈ intOperations := by decide
  exact names opcode block

/-- A line with integers that fit. -/
theorem lineEncodes_intBlock {opcode : Opcode}
    (block : opcode ∈ intBlockOpcodes) {leading trail : List Char}
    (indented : IsRun leading) (trails : Trails trail) {row : Row}
    {values : List Nat} (writes : WritesInts row values)
    (small : ∀ value ∈ values, value < UInt64.size) {source : String}
    {number : Nat} (line : sourceLine? source number =
      some (operationLine leading opcode.name row trail)) :
    LineEncodes source number (opcode.code ::
      (Codec.varuint values.length ++ values.flatMap Codec.varuint)) := by
  have read := readLine_operationLine (name_mem_intOperations block) indented
    trails (follows_of_writesInts writes)
  rw [readInstruction_intBlock block,
    mapM_readUint_of_writesInts writes small] at read
  apply lineEncodes_of_readLine line read rfl
  intro offsets
  simp [Instruction.map, Instruction.encode, Operand.map, Operand.encode]

theorem lineRefused_intBlock {opcode : Opcode}
    (block : opcode ∈ intBlockOpcodes) {leading trail : List Char}
    (indented : IsRun leading) (trails : Trails trail) {front back : Row}
    {values : List Nat} (writes : WritesInts front values)
    (small : ∀ value ∈ values, value < UInt64.size) {run : List Char}
    (isRun : IsRun run) (parted : run ≠ []) {text : String} {value : Nat}
    (numeral : IntNumeral text.toList value) (large : UInt64.size ≤ value)
    (behind : ∀ entry ∈ back, Follows entry) {source : String} {number : Nat}
    (line : sourceLine? source number = some (operationLine leading
      opcode.name (front ++ (run, wordPiece text) :: back) trail)) :
    LineRefused source number
      ⟨1 + (leading ++ (opcode.name.toList ++ (front.text ++ run))).length,
        .invalidInteger text⟩ := by
  have follow : ∀ entry ∈ front ++ (run, wordPiece text) :: back,
      Follows entry := by
    rw [List.forall_mem_append, List.forall_mem_cons]
    exact ⟨follows_of_writesInts writes,
      follows_word isRun parted (isWord_numeral numeral), behind⟩
  have read := readLine_operationLine (name_mem_intOperations block) indented
    trails follow
  rw [readInstruction_intBlock block,
    mapM_readUint_of_large writes small numeral large] at read
  have place : leading.length + opcode.name.toList.length +
      front.text.length + run.length =
        (leading ++ (opcode.name.toList ++ (front.text ++ run))).length := by
    simp [Nat.add_assoc]
  rw [place] at read
  exact lineRefused_of_readLine line read

theorem readLine_intPush {operation : String}
    (push : operation ∈ ["int", "pushint"]) {leading trail : List Char}
    (indented : IsRun leading) (trails : Trails trail) {run : List Char}
    (isRun : IsRun run) (parted : run ≠ []) {text : String} {value : Nat}
    (denotes : DenotesInt text.toList value) :
    readLine (operationLine leading operation [(run, wordPiece text)] trail) =
      .ok ⟨none, .instruction (if value < UInt64.size then .ok (pushInt value)
        else .error
          ⟨1 + (leading ++ (operation.toList ++ run)).length,
            .invalidInteger text⟩)⟩ := by
  have known : operation ∈ intOperations :=
    List.mem_append_right ["intcblock", "pushints"] push
  have follow := follows_word isRun parted (isWord_of_denotesInt denotes)
  have place : leading.length + operation.toList.length + run.length =
      (leading ++ (operation.toList ++ run)).length := by
    simp [Nat.add_assoc]
  rw [readLine_operationLine known indented trails
    (List.forall_mem_singleton.mpr follow)]
  simp only [Row.tokens]
  rw [readInstruction_intPush push, place,
    readUint_of_denotesInt ⟨(wordPiece text).kind, _⟩ denotes]
  split <;> rfl

/-! ## Bytes -/

section

variable {operation : At String} {missing : At Fault}

theorem readOperands_append {kinds : List ImmediateKind}
    {tokens rest : List Token} {operands : List (Operand (At String))}
    (front : readOperands operation missing kinds tokens =
      .ok (operands, rest)) (more : List ImmediateKind) :
    readOperands operation missing (kinds ++ more) tokens =
      (readOperands operation missing more rest).map fun behind =>
        (operands ++ behind.1, behind.2) := by
  induction kinds generalizing tokens operands with
  | nil =>
      cases front
      rw [List.nil_append]
      cases readOperands operation missing more rest <;> rfl
  | cons kind kinds induction =>
      obtain ⟨⟨first, between⟩, own, front⟩ := bind_eq_ok.mp front
      obtain ⟨⟨others, behind⟩, later, front⟩ := bind_eq_ok.mp front
      cases front
      rw [List.cons_append, readOperands, own]
      simp only [bind, Except.bind, induction later]
      cases readOperands operation missing more rest <;> rfl

theorem readOperand_u8 (token : Token) (rest : List Token) {value : Nat}
    (denotes : DenotesInt token.text.toList value) :
    readOperand operation missing .u8 (token :: rest) =
      if value ≤ 255 then .ok (.byte (UInt8.ofNat value), rest)
      else .error ⟨token.column,
        if value < UInt64.size then .outOfRange value 255
        else .invalidInteger token.text⟩ := by
  have whole : readOperand operation missing .u8 (token :: rest) =
      (readU8 token).map fun byte => (.byte byte, rest) := by
    simp only [readOperand, readToken, bind, Except.bind]
    cases readU8 token <;> rfl
  rw [whole, readU8, readUint_of_denotesInt token denotes]
  by_cases small : value < UInt64.size
  · simp only [if_pos small, bind, Except.bind]
    split <;> rfl
  · have fits : 255 < UInt64.size := by decide
    have large : ¬ value ≤ 255 := by omega
    simp only [if_neg small, if_neg large]
    rfl

/-- A byte is read behind the immediates in front of it. -/
theorem readOperands_u8 {kinds : List ImmediateKind} {tokens rest : List Token}
    {token : Token} {operands : List (Operand (At String))}
    (front : readOperands operation missing kinds tokens =
      .ok (operands, token :: rest)) {value : Nat}
    (denotes : DenotesInt token.text.toList value)
    (more : List ImmediateKind) :
    readOperands operation missing (kinds ++ .u8 :: more) tokens =
      if value ≤ 255 then
        (readOperands operation missing more rest).map fun behind =>
          (operands ++ .byte (UInt8.ofNat value) :: behind.1, behind.2)
      else .error ⟨token.column,
        if value < UInt64.size then .outOfRange value 255
        else .invalidInteger token.text⟩ := by
  rw [readOperands_append front, readOperands,
    readOperand_u8 token rest denotes]
  split
  · simp only [bind, Except.bind]
    cases readOperands operation missing more rest <;> rfl
  · rfl

end

theorem lineRefused_u8 {opcode : Opcode} (known : opcode ∈ Opcode.all)
    {kinds more : List ImmediateKind}
    (byte : opcode.immediates = kinds ++ .u8 :: more) {column : Nat}
    {tokens rest : List Token} {operands : List (Operand (At String))}
    {token : Token} (front : readImmediates opcode column kinds tokens =
      .ok (operands, token :: rest)) {value : Nat}
    (denotes : DenotesInt token.text.toList value) (large : 255 < value)
    {text : List Char} (scanned : Token.scan text =
      .ok (⟨.word opcode.name, column⟩ :: tokens)) {source : String}
    {number : Nat} (line : sourceLine? source number = some text) :
    LineRefused source number
      ⟨token.column, if value < UInt64.size then .outOfRange value 255
        else .invalidInteger token.text⟩ := by
  have table : ∀ opcode ∈ Opcode.all, .u8 ∈ opcode.immediates →
      Opcode.ofName? opcode.name = some opcode ∧
      opcode.name ∉ ["int", "byte", "addr", "method"] ∧
      opcode.name.toList.head? ≠ some '#' ∧
      labelName? opcode.name = none := by decide +kernel
  obtain ⟨named, plain, directive, unlabelled⟩ :=
    table opcode known (byte ▸ List.mem_append_right _ List.mem_cons_self)
  have read := readLine_of_operation directive unlabelled scanned
  have failed := readOperands_u8 front denotes more
  rw [if_neg (Nat.not_le_of_lt large), ← byte] at failed
  rw [readInstruction_table named plain, readOpcode] at read
  simp only [failed] at read
  exact lineRefused_of_readLine line read

/-- A line with integers encodes their values in order, as a block with its
count or, if there is one, as a push, however they are spelled.  The first
numeral of a line that is too large is its fault, and a byte is refused if it is
larger than 255. -/
theorem integers_encode_alike {leading trail : List Char}
    (indented : IsRun leading) (trails : Trails trail) :
    (∀ row values, WritesInts row values →
      (∀ value ∈ values, value < UInt64.size) →
      (∀ opcode ∈ intBlockOpcodes, ∀ source number,
        sourceLine? source number =
            some (operationLine leading opcode.name row trail) →
          LineEncodes source number (opcode.code ::
            (Codec.varuint values.length ++
              values.flatMap Codec.varuint))) ∧
      ∀ value, values = [value] → ∀ operation ∈ ["int", "pushint"],
        ∀ source number, sourceLine? source number =
            some (operationLine leading operation row trail) →
          LineEncodes source number (0x81 :: Codec.varuint value)) ∧
    (∀ run text value, IsRun run → run ≠ [] →
      IntNumeral text.toList value → UInt64.size ≤ value →
      (∀ opcode ∈ intBlockOpcodes, ∀ front values back,
        WritesInts front values → (∀ value ∈ values, value < UInt64.size) →
        (∀ entry ∈ back, Follows entry) → ∀ source number,
          sourceLine? source number = some (operationLine leading
              opcode.name (front ++ (run, wordPiece text) :: back) trail) →
            LineRefused source number
              ⟨1 + (leading ++ (opcode.name.toList ++
                (front.text ++ run))).length, .invalidInteger text⟩) ∧
      ∀ operation ∈ ["int", "pushint"], ∀ source number,
        sourceLine? source number = some (operationLine leading operation
            [(run, wordPiece text)] trail) →
          LineRefused source number
            ⟨1 + (leading ++ (operation.toList ++ run)).length,
              .invalidInteger text⟩) ∧
    ∀ opcode ∈ Opcode.all, ∀ kinds more,
      opcode.immediates = kinds ++ .u8 :: more →
      ∀ column tokens operands token rest,
        readImmediates opcode column kinds tokens =
          .ok (operands, token :: rest) →
        ∀ value, DenotesInt token.text.toList value →
          (value ≤ 255 →
            readImmediates opcode column opcode.immediates tokens =
              (readImmediates opcode column more rest).map fun behind =>
                (operands ++ .byte (UInt8.ofNat value) :: behind.1,
                  behind.2)) ∧
          (255 < value → ∀ text, Token.scan text =
              .ok (⟨.word opcode.name, column⟩ :: tokens) →
            ∀ source number, sourceLine? source number = some text →
              LineRefused source number
                ⟨token.column, if value < UInt64.size then .outOfRange value 255
                  else .invalidInteger token.text⟩) := by
  refine ⟨?_, ?_, ?_⟩
  · intro row values writes small
    refine ⟨fun opcode block source number =>
      lineEncodes_intBlock block indented trails writes small, ?_⟩
    rintro value rfl operation push source number line
    cases writes with
    | cons isRun parted denotes others =>
        cases others
        have read := readLine_intPush push indented trails isRun parted denotes
        rw [if_pos (small value List.mem_cons_self)] at read
        apply lineEncodes_of_readLine line read rfl
        intro offsets
        simp [pushInt, Instruction.map, Instruction.encode, Operand.map,
          Operand.encode, Opcode.pushIntCode]
  · intro run text value isRun parted numeral large
    refine ⟨fun opcode block front values back writes small behind source
      number => lineRefused_intBlock block indented trails writes small isRun
        parted numeral large behind, ?_⟩
    intro operation push source number line
    have read := readLine_intPush push indented trails isRun parted
      (.numeral numeral)
    rw [if_neg (Nat.not_lt_of_le large)] at read
    exact lineRefused_of_readLine line read
  · intro opcode known kinds more byte column tokens operands token rest front
      value denotes
    refine ⟨fun small => ?_, fun large text scanned source number =>
      lineRefused_u8 known byte front denotes large scanned⟩
    have read := readOperands_u8 front denotes more
    rw [if_pos small, ← byte] at read
    exact read

/-- Integers in each spelling. -/
def mixedRow : Row :=
  [([' '], wordPiece "0x0Ff"), (['\t'], wordPiece "007"),
    ([' '], wordPiece "pay"), ([' ', ' '], wordPiece "18446744073709551615")]

theorem integers_encode_alike_mixedRow :
    LineEncodes "\tintcblock 0x0Ff\t007 pay  18446744073709551615 // c" 1
        (0x20 :: (Codec.varuint 4 ++
          [255, 7, 1, 18446744073709551615].flatMap Codec.varuint)) ∧
      LineEncodes "pop\n\tint 0x0Ff // c" 2 (0x81 :: Codec.varuint 255) ∧
      LineRefused "\tpushints 007 02000000000000000000000 x // c" 1
        ⟨15, .invalidInteger "02000000000000000000000"⟩ ∧
      LineRefused "\tpushint 02000000000000000000000 // c" 1
        ⟨10, .invalidInteger "02000000000000000000000"⟩ ∧
      LineRefused "txna 3 0x100" 1 ⟨8, .outOfRange 256 255⟩ := by
  have indented : IsRun ['\t'] := by decide
  have trails : Trails [' ', '/', '/', ' ', 'c'] :=
    @Trails.comment [' '] [' ', 'c'] (by decide) (by decide)
  have hexadecimal : DenotesInt "0x0Ff".toList 255 :=
    .numeral (@IntNumeral.hexadecimal ['0', 'F', 'f'] 255 ⟨1, by decide⟩)
  have octal : DenotesInt "007".toList 7 :=
    .numeral (@IntNumeral.octal ['0', '7'] 7 ⟨1, by decide⟩)
  have large : IntNumeral "02000000000000000000000".toList UInt64.size :=
    @IntNumeral.octal "2000000000000000000000".toList _ ⟨0, by decide⟩
  have word : IsWord "x".toList :=
    Token.isWord_of_isAlphanum (by decide) (List.all_eq_true.mp rfl)
  have writes : WritesInts mixedRow [255, 7, 1, 18446744073709551615] :=
    .cons (by decide) (by decide) hexadecimal
      (.cons (by decide) (by decide) octal
        (.cons (by decide) (by decide) (.named (by decide))
          (.cons (by decide) (by decide)
            (.numeral (.decimal 18446744073709551615)) .nil)))
  have ⟨valid, refused, bytes⟩ := integers_encode_alike indented trails
  refine ⟨?_, ?_, ?_, ?_, ?_⟩
  · exact (valid _ _ writes (by decide +kernel)).1
      ⟨"intcblock", 0x20, [.intBlock]⟩ (by decide) _ 1 (by decide +kernel)
  · exact (valid [([' '], wordPiece "0x0Ff")] [255]
      (.cons (by decide) (by decide) hexadecimal .nil) (by decide)).2 255 rfl
      "int" (by decide) _ 2 (by decide +kernel)
  · exact (refused [' '] _ _ (by decide) (by decide) large (by decide)).1
      ⟨"pushints", 0x83, [.intBlock]⟩ (by decide) [([' '], wordPiece "007")]
      [7] [([' '], wordPiece "x")]
      (.cons (by decide) (by decide) octal .nil) (by decide)
      (List.forall_mem_singleton.mpr
        (follows_word (by decide) (by decide) word)) _ 1 (by decide +kernel)
  · exact (refused [' '] _ _ (by decide) (by decide) large (by decide)).2
      "pushint" (by decide) _ 1 (by decide +kernel)
  · have value : DenotesInt "0x100".toList 256 :=
      .numeral (@IntNumeral.hexadecimal ['1', '0', '0'] 256 ⟨0, by decide⟩)
    exact (bytes ⟨"txna", 0x36, [.field .txn, .u8]⟩ (by decide)
      [.field .txn] [] rfl 1 [⟨.word "3", 6⟩, ⟨.word "0x100", 8⟩] [.byte 3]
      ⟨.word "0x100", 8⟩ [] (by decide +kernel) 256 value).2 (by decide)
      "txna 3 0x100".toList (by decide +kernel) _ 1 (by decide +kernel)

end TealTools.Assembly

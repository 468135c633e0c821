import TealTools.Proofs.Assembly.Constants
import TealTools.Proofs.Assembly.HexConstants
import TealTools.Proofs.Codec.Base32
import TealTools.Proofs.Token.Rendering

/-!
# Byte constants in every form

A byte string can be written as a literal, in hexadecimal digits or in base32,
and base32 stands behind its name or in brackets.  A line with constants holds
the same code in whatever forms they are written.
-/

namespace TealTools.Assembly

open Token (IsRun IsWord Passes SpellsLiteral Trails columnAfter)

/-! ## Forms -/

/-- A byte string in base32, with any padding. -/
def base32Text (bytes : Bytes) (padding : Nat) : List Char :=
  Codec.Base32.encode bytes ++ List.replicate padding '='

/-- The texts of a byte string as a constant. -/
inductive Denotes : List Char → Bytes → Prop where
  | literal {body : List Char} {bytes : Bytes} :
      SpellsLiteral body bytes → Denotes ('"' :: (body ++ ['"'])) bytes
  | hexadecimal {digits : List Char} {bytes : Bytes} :
      Codec.Hex.Spells digits bytes → Denotes ('0' :: 'x' :: digits) bytes
  | separate {encoding : String} {run : List Char} {bytes : Bytes}
      (padding : Nat) :
      encoding ∈ ["base32", "b32"] → IsRun run → run ≠ [] → bytes ≠ [] →
      Denotes (encoding.toList ++ (run ++ base32Text bytes padding)) bytes
  | bracketed {encoding : String} {bytes : Bytes} (padding : Nat) :
      encoding ∈ ["base32", "b32"] →
      Denotes (encoding.toList ++ '(' :: (base32Text bytes padding ++ [')']))
        bytes

/-- A constant behind a run. -/
structure Entry where
  run : List Char
  text : List Char
  bytes : Bytes
  isRun : IsRun run
  parted : run ≠ []
  denotes : Denotes text bytes

def writtenEntries (entries : List Entry) : List Char :=
  entries.flatMap fun entry => entry.run ++ entry.text

/-! ## Words -/

private theorem mem_encodingNames_of_base32 {encoding : String}
    (named : encoding ∈ ["base32", "b32"]) : encoding ∈ encodingNames :=
  List.mem_append_right ["base64", "b64"] named

theorem decodeNamed_base32 {encoding : String}
    (named : encoding ∈ ["base32", "b32"]) (bytes : Bytes) (padding : Nat) :
    decodeNamed encoding (String.ofList (base32Text bytes padding)) =
      .ok bytes := by
  have known : decoder? encoding = some Codec.Base32.decode? := by
    simp only [List.mem_cons, List.not_mem_nil, or_false] at named
    rcases named with rfl | rfl <;> rfl
  apply decodeNamed_of_decoder? known
  rw [String.toList_ofList, base32Text, Codec.Base32.decode?_encode]

private theorem plain_of_mem_base32Text
    {bytes : Bytes} {padding : Nat} {c : Char}
    (member : c ∈ base32Text bytes padding) :
    (Text.isBlank c = false ∧ c ≠ '/') ∧ c ≠ '"' := by
  rcases List.mem_append.mp member with letter | equals
  · exact @Codec.Base32.forall_mem_encode
      (fun c => (Text.isBlank c = false ∧ c ≠ '/') ∧ c ≠ '"') (by decide)
      bytes c letter
  · cases List.eq_of_mem_replicate equals
    decide

private theorem unbroken_base32Text (bytes : Bytes) (padding : Nat) :
    Token.Unbroken (base32Text bytes padding) :=
  Token.unbroken_of_plain fun _ member =>
    (plain_of_mem_base32Text member).1

private theorem isWord_base32Text {bytes : Bytes} (nonempty : bytes ≠ [])
    (padding : Nat) : IsWord (base32Text bytes padding) := by
  refine ⟨unbroken_base32Text bytes padding, ?_, ?_⟩
  · intro empty
    have read := Codec.Base32.decode?_encode bytes padding
    rw [← base32Text, empty] at read
    exact nonempty (Option.some.inj read).symm
  · intro quoted
    exact (plain_of_mem_base32Text (List.mem_of_head? quoted)).2 rfl

private theorem isWord_hexadecimal {digits : List Char} {bytes : Bytes}
    (spelled : Codec.Hex.Spells digits bytes) :
    IsWord ('0' :: 'x' :: digits) := by
  apply Token.isWord_of_isAlphanum (List.cons_ne_nil _ _)
  simp only [List.forall_mem_cons]
  exact ⟨rfl, rfl, Codec.Hex.isAlphanum_of_spells spelled⟩

/-! ## Reading -/

theorem readConstant_complete {token : Token} {bytes : Bytes}
    (form : constantForm token = .ok (.complete bytes)) (missing : At Fault)
    (rest : List Token) :
    readConstant missing (token :: rest) = .ok (bytes, rest) :=
  bind_eq_ok.mpr ⟨_, located_eq_ok.mpr form, rfl⟩

theorem constantForm_hexadecimal {digits : List Char} {bytes : Bytes}
    (spelled : Codec.Hex.Spells digits bytes) (column : Nat) :
    constantForm ⟨.word (String.ofList ('0' :: 'x' :: digits)), column⟩ =
      .ok (.complete bytes) := by
  have form := constantForm_hexWord digits column
  rwa [Codec.Hex.decode?_of_spells spelled] at form

/-- The tokens of a constant are passed over and read as its bytes, in any
form. -/
theorem Denotes.passes {text : List Char} {bytes : Bytes}
    (denotes : Denotes text bytes) {rest more : List Char} {column : Nat}
    {tokens : List Token}
    (parted : ∀ c ∈ (more ++ rest).head?, Text.isSeparator c)
    (behind : Passes rest (columnAfter column text) more tokens) :
    ∃ own, Passes rest column (text ++ more) (own ++ tokens) ∧
      ∀ missing, readConstant missing (own ++ tokens) =
        .ok (bytes, tokens) := by
  cases denotes with
  | literal spelled =>
      exact ⟨[_], .literal spelled behind,
        fun missing => readConstant_complete rfl missing tokens⟩
  | @hexadecimal digits bytes spelled =>
      have word := isWord_hexadecimal spelled
      rw [← String.toList_ofList (l := '0' :: 'x' :: digits)]
        at word behind ⊢
      exact ⟨[_], .word word parted behind, fun missing =>
        readConstant_complete (constantForm_hexadecimal spelled column)
          missing tokens⟩
  | @separate encoding run bytes padding named isRun nonempty given =>
      have known := mem_encodingNames_of_base32 named
      have name := isWord_name (List.mem_append_left constantOperations known)
      have word := isWord_base32Text given padding
      have decoded := decodeNamed_base32 named bytes padding
      rw [← String.toList_ofList (l := base32Text bytes padding)]
        at word behind ⊢
      rw [Token.columnAfter_append, Token.columnAfter_append] at behind
      rw [List.append_assoc, List.append_assoc]
      have passed := (Passes.word word parted behind).separators
        isRun.separators
      refine ⟨[_, _], .word name ?_ passed, fun missing =>
        readConstant_attached known decoded .separate rfl missing tokens⟩
      rw [List.append_assoc]
      exact Token.head_run isRun nonempty _
  | @bracketed encoding bytes padding named =>
      have known := mem_encodingNames_of_base32 named
      have decoded := decodeNamed_base32 named bytes padding
      have unbroken := unbroken_base32Text bytes padding
      rw [← String.toList_ofList (l := base32Text bytes padding)] at unbroken
      have word := isWord_bracketed known unbroken
      have text : encoding.toList ++
          '(' :: (base32Text bytes padding ++ [')']) =
            (encoding ++ "(" ++ String.ofList (base32Text bytes padding) ++
              ")").toList := by simp
      rw [text] at behind ⊢
      exact ⟨[_], .word word parted behind, fun missing =>
        readConstant_attached known decoded .bracketed rfl missing tokens⟩

/-! ## Lines -/

/-- Behind a constant stands a separator, if anything does. -/
private theorem head_writtenEntries (entries : List Entry) {trail : List Char}
    (trails : Trails trail) :
    ∀ c ∈ (writtenEntries entries ++ trail).head?, Text.isSeparator c := by
  cases entries with
  | nil => exact trails.head
  | cons entry entries =>
      rw [writtenEntries, List.flatMap_cons, List.append_assoc,
        List.append_assoc]
      exact Token.head_run entry.isRun entry.parted _

/-- The tokens of constants are passed over, and the first is read as its
bytes in front of the others. -/
private theorem passes_cons (entry : Entry) {entries : List Entry}
    {trail : List Char} (trails : Trails trail) {column : Nat}
    {tokens : List Token}
    (behind : Passes trail
      (columnAfter (columnAfter column entry.run) entry.text)
      (writtenEntries entries) tokens) :
    ∃ own, Passes trail column (writtenEntries (entry :: entries))
        (own ++ tokens) ∧
      ∀ missing, readConstant missing (own ++ tokens) =
        .ok (entry.bytes, tokens) := by
  obtain ⟨own, passed, read⟩ :=
    entry.denotes.passes (head_writtenEntries entries trails) behind
  refine ⟨own, ?_, read⟩
  rw [writtenEntries, List.flatMap_cons, ← writtenEntries, List.append_assoc]
  exact passed.separators entry.isRun.separators

theorem passes_writtenEntries (entries : List Entry) {trail : List Char}
    (trails : Trails trail) (column : Nat) :
    ∃ tokens, Passes trail column (writtenEntries entries) tokens ∧
      ∀ missing, readConstants missing tokens =
        .ok (entries.map Entry.bytes) := by
  induction entries generalizing column with
  | nil =>
      refine ⟨[], .nil, fun missing => ?_⟩
      rw [readConstants]
      rfl
  | cons entry entries induction =>
      obtain ⟨tokens, behind, others⟩ := induction
        (columnAfter (columnAfter column entry.run) entry.text)
      obtain ⟨own, passed, first⟩ := passes_cons entry trails behind
      refine ⟨own ++ tokens, passed, fun missing => ?_⟩
      rw [readConstants_of_readConstant (first missing), others]
      rfl

/-- A line with an operation, constants and maybe a comment. -/
def entriesLine (leading : List Char) (operation : String)
    (entries : List Entry) (trail : List Char) : List Char :=
  leading ++ (operation.toList ++ (writtenEntries entries ++ trail))

theorem readLine_entriesLine {operation : String}
    (known : operation ∈ constantOperations) {leading trail : List Char}
    (indented : IsRun leading) (trails : Trails trail) (entries : List Entry)
    {tokens : List Token}
    (behind : Passes trail
      (columnAfter (columnAfter 1 leading) operation.toList)
      (writtenEntries entries) tokens) :
    readLine (entriesLine leading operation entries trail) =
      .ok ⟨none, .instruction
        (readInstruction ⟨columnAfter 1 leading, operation⟩ tokens)⟩ := by
  have word := isWord_name (List.mem_append_right encodingNames known)
  have passed := (Passes.word word (head_writtenEntries entries trails)
    behind).separators indented.separators
  have scanned := passed.scanFrom
  rw [trails.scanFrom, List.append_assoc, List.append_assoc] at scanned
  apply readLine_of_scan known
  simpa [entriesLine, Token.scan, Except.map] using scanned

/-- A line with byte constants encodes their bytes in order, as a block with
its count or, if there is one, as a push.  The forms of the constants, the runs
around them and the comment behind them have no part in what is read. -/
theorem byte_constants_encode_alike {leading trail : List Char}
    (indented : IsRun leading) (trails : Trails trail) {values : List Bytes}
    {entries : List Entry} (denoted : entries.map Entry.bytes = values) :
    (∀ opcode ∈ blockOpcodes,
      readLine (entriesLine leading opcode.name entries trail) =
          .ok ⟨none, .instruction (.ok ⟨opcode.code, [.strings values]⟩)⟩ ∧
        ∀ source number, sourceLine? source number =
            some (entriesLine leading opcode.name entries trail) →
          LineEncodes source number (opcode.code ::
            (Codec.varuint values.length ++ values.flatMap fun value =>
              Codec.varuint value.length ++ value))) ∧
      ∀ value, values = [value] → ∀ operation ∈ ["byte", "pushbytes"],
        readLine (entriesLine leading operation entries trail) =
            .ok ⟨none, .instruction (.ok (pushBytes value))⟩ ∧
          ∀ source number, sourceLine? source number =
              some (entriesLine leading operation entries trail) →
            LineEncodes source number
              (0x80 :: (Codec.varuint value.length ++ value)) := by
  subst denoted
  constructor
  · intro opcode block
    have names : ∀ opcode ∈ blockOpcodes,
        opcode.name ∈ constantOperations := by decide
    obtain ⟨tokens, behind, constants⟩ :=
      passes_writtenEntries entries trails _
    have read := readLine_entriesLine (names opcode block) indented trails
      entries behind
    rw [readInstruction_block block constants] at read
    exact ⟨read, fun source number line =>
      lineEncodes_of_strings line read⟩
  · intro value single operation push
    obtain ⟨entry, rfl, rfl⟩ := List.map_eq_singleton_iff.mp single
    obtain ⟨tokens, behind, constant⟩ :=
      @passes_cons entry [] trail trails _ [] .nil
    rw [List.append_nil] at behind
    have read := readLine_entriesLine (mem_constantOperations_of_push push)
      indented trails [entry] behind
    rw [readInstruction_push push (by simpa using constant)] at read
    exact ⟨read, fun source number line => lineEncodes_of_push line read⟩

/-- One constant in each form. -/
def mixedEntries : List Entry :=
  [⟨[' '], ['0', 'x', '4', 'a', 'F', 'f'], [0x4A, 0xFF], by decide, by decide,
      .hexadecimal (.cons rfl rfl (.cons rfl rfl .nil))⟩,
    ⟨['\t'], ['"', 'a', '\\', 'x', '2', 'f', '/', '"'], [0x61, 0x2F, 0x2F],
      by decide, by decide,
      @Denotes.literal ['a', '\\', 'x', '2', 'f', '/'] _
        (.plain (by decide) (by decide)
          (.hexadecimal rfl (.plain (by decide) (by decide) .nil)))⟩,
    ⟨[' ', ' '], _, _, by decide, by decide,
      @Denotes.separate "base32" ['\t'] [0x66, 0x6F] 4 (by decide)
        (by decide) (by decide) (by decide)⟩,
    ⟨[' '], _, _, by decide, by decide,
      @Denotes.bracketed "b32" [0x66] 0 (by decide)⟩]

theorem byte_constants_encode_alike_mixedEntries :
    LineEncodes
        "\tbytecblock 0x4aFf\t\"a\\x2f/\"  base32\tMZXQ==== b32(MY) // c" 1
        (0x26 :: (Codec.varuint 4 ++
          [[0x4A, 0xFF], [0x61, 0x2F, 0x2F], [0x66, 0x6F], [0x66]].flatMap
            fun value => Codec.varuint value.length ++ value)) ∧
      LineEncodes "int 1\n\tpushbytes 0x4aFf // c" 2
        (0x80 :: (Codec.varuint 2 ++ [0x4A, 0xFF])) := by
  have indented : IsRun ['\t'] := by decide
  have trails : Trails [' ', '/', '/', ' ', 'c'] :=
    @Trails.comment [' '] [' ', 'c'] (by decide) (by decide)
  constructor
  · exact ((byte_constants_encode_alike indented trails
      (rfl : mixedEntries.map Entry.bytes = _)).1
      ⟨"bytecblock", 0x26, [.byteBlock]⟩ (by decide)).2 _ 1
      (by decide +kernel)
  · exact ((byte_constants_encode_alike indented trails
      (rfl : (mixedEntries.take 1).map Entry.bytes = _)).2 [0x4A, 0xFF] rfl
      "pushbytes" (by decide)).2 _ 2 (by decide +kernel)

end TealTools.Assembly

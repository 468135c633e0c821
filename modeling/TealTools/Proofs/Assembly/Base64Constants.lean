import TealTools.Proofs.Assembly.Constants
import TealTools.Proofs.Codec.Base64

/-!
# Byte constants in base64

The alphabet has a slash, and two slashes in a row begin a comment.  A text
without them is read as the bytes that it spells, in every notation and on
every line that takes constants.  A text with them is cut off there, and what
is left never spells the same bytes.
-/

namespace TealTools.Assembly

/-- The text of a byte string. -/
def base64Text (bytes : Bytes) : String :=
  String.ofList (Codec.Base64.encode bytes)

private theorem mem_encodingNames_of_base64 {encoding : String}
    (named : encoding ∈ ["base64", "b64"]) : encoding ∈ encodingNames :=
  List.mem_append_left ["base32", "b32"] named

theorem decoder?_base64 {encoding : String}
    (named : encoding ∈ ["base64", "b64"]) :
    decoder? encoding = some Codec.Base64.decode? :=
  if_pos (by simpa using named)

theorem decodeNamed_base64 {encoding : String}
    (named : encoding ∈ ["base64", "b64"]) (bytes : Bytes) :
    decodeNamed encoding (base64Text bytes) = .ok bytes := by
  apply decodeNamed_of_decoder? (decoder?_base64 named)
  rw [base64Text, String.toList_ofList, Codec.Base64.decode?_encode]

private theorem plain_of_mem_encode {bytes : Bytes} {c : Char}
    (member : c ∈ Codec.Base64.encode bytes) :
    Text.isBlank c = false ∧ c ≠ '"' ∧ c ≠ ')' := by
  have plain : ∀ c ∈ Codec.Base64.encode bytes,
      Text.isBlank c = false ∧ c ≠ '"' ∧ c ≠ ')' :=
    Codec.Base64.forall_mem_encode (by decide) (by decide) bytes
  exact plain c member

private theorem isWord_base64Text {bytes : Bytes} (nonempty : bytes ≠ [])
    (uncommented : ¬ ['/', '/'] <:+: Codec.Base64.encode bytes) :
    Token.IsWord (base64Text bytes).toList := by
  rw [base64Text, String.toList_ofList]
  refine ⟨⟨fun c member => (plain_of_mem_encode member).1, uncommented⟩,
    ?_, ?_⟩
  · intro empty
    have read := Codec.Base64.decode?_encode bytes
    rw [empty] at read
    exact nonempty (Option.some.inj read).symm
  · intro quoted
    exact (plain_of_mem_encode (List.mem_of_head? quoted)).2.1 rfl

/-! ## Texts that are cut off -/

/-- A push of bytes reads them as its constant. -/
theorem spellsBytes_of_push {operation : String}
    (push : operation ∈ ["byte", "pushbytes"]) {column : Nat}
    {tokens : List Token} {bytes : Bytes}
    (read : readInstruction ⟨column, operation⟩ tokens =
      .ok (pushBytes bytes)) : SpellsBytes tokens bytes := by
  simp only [List.mem_cons, List.not_mem_nil, or_false] at push
  rcases push with rfl | rfl
  · obtain ⟨result, constant, read⟩ := bind_eq_ok.mp read
    obtain ⟨value, complete, read⟩ := bind_eq_ok.mp read
    cases read
    rw [finished_eq_ok complete] at constant
    obtain ⟨front, split, spelled⟩ := readConstant_eq_ok constant
    rw [split, List.append_nil]
    exact spelled
  · rw [readInstruction_pushbytes_eq] at read
    obtain ⟨operands, same, spelled⟩ := readOpcode_eq_ok read
    cases same
    cases spelled with
    | cons first rest =>
        cases rest
        cases first with
        | bytes spelled =>
            rw [List.append_nil]
            exact spelled

/-- A word that is a constant for itself. -/
private theorem word_of_spellsBytes
    {word : String} {column : Nat} {bytes : Bytes}
    (spelled : SpellsBytes [⟨.word word, column⟩] bytes) :
    (∃ digits, word = "0x" ++ digits) ∨
      ∃ encoding payload, word = encoding ++ "(" ++ payload ++ ")" := by
  cases spelled with
  | literal kind => cases kind
  | hexadecimal given _ => exact .inl ⟨_, Option.some.inj given⟩
  | bracketed given _ _ => exact .inr ⟨_, _, Option.some.inj given⟩

private theorem not_spellsBytes_name {encoding : String}
    (named : encoding ∈ encodingNames) {column : Nat} {bytes : Bytes} :
    ¬ SpellsBytes [⟨.word encoding, column⟩] bytes := by
  obtain ⟨letter, plain, _⟩ := letters_of_encoding named
  intro spelled
  rcases word_of_spellsBytes spelled with ⟨digits, rfl⟩ | ⟨_, _, rfl⟩
  · simp at letter
  · simp at plain

private theorem not_spellsBytes_unclosed {encoding : String}
    (named : encoding ∈ encodingNames) {payload : List Char}
    (unclosed : ')' ∉ payload) {column : Nat} {bytes : Bytes} :
    ¬ SpellsBytes [⟨.word (String.ofList
      (encoding.toList ++ '(' :: payload)), column⟩] bytes := by
  obtain ⟨letter, _, plain⟩ := letters_of_encoding named
  intro spelled
  rcases word_of_spellsBytes spelled with ⟨digits, same⟩ | ⟨_, _, same⟩
  · have first := congrArg (fun word => word.toList.head?) same
    simp [letter] at first
  · have closing : ')' ∈ encoding.toList ++ '(' :: payload := by
      rw [← String.toList_ofList (l := encoding.toList ++ '(' :: payload),
        same]
      simp
    simp [plain, unclosed] at closing

/-- The part of a text in front of a comment does not spell the same bytes. -/
private theorem not_spellsBytes_cut {encoding : String}
    (named : encoding ∈ ["base64", "b64"]) {bytes : Bytes}
    {front back : List Char}
    (text : Codec.Base64.encode bytes = front ++ '/' :: '/' :: back)
    {column place : Nat} :
    ¬ SpellsBytes [⟨.word encoding, column⟩,
      ⟨.word (String.ofList front), place⟩] bytes := by
  intro spelled
  cases spelled with
  | separate given known decoded =>
      cases given
      rw [decoder?_base64 named] at known
      cases known
      have whole := Codec.Base64.decode?_eq_some_iff.mp decoded
      rw [text] at whole
      simp [Token.text] at whole

/-- The tokens that are left of a constant in front of a comment do not spell
its bytes. -/
private theorem not_spellsBytes_of_commented {bytes : Bytes} {encoding : String}
    (commented : ['/', '/'] <:+: Codec.Base64.encode bytes)
    (named : encoding ∈ ["base64", "b64"]) (form : Attachment)
    (column : Nat) :
    ∃ tokens, Token.scanFrom column
        (form.write encoding (base64Text bytes)).toList = .ok tokens ∧
      ¬ SpellsBytes tokens bytes := by
  have known := mem_encodingNames_of_base64 named
  have name := isWord_name (List.mem_append_left constantOperations known)
  obtain ⟨front, back, text, first⟩ := Token.exists_first_comment commented
  have plain : ∀ c ∈ front, Text.isBlank c = false ∧ c ≠ '"' ∧ c ≠ ')' := by
    intro c member
    apply plain_of_mem_encode
    rw [text]
    exact List.mem_append_left _ member
  have visible : ∀ c ∈ front, Text.isBlank c = false :=
    fun c member => (plain c member).1
  cases form with
  | separate =>
      have line : (Attachment.separate.write encoding
          (base64Text bytes)).toList = encoding.toList ++ ' ' ::
            (front ++ '/' :: '/' :: back) := by
        simp [Attachment.write, base64Text, text]
      have unquoted : front.head? ≠ some '"' := fun quoted =>
        (plain '"' (List.mem_of_head? quoted)).2.1 rfl
      have scanned := (Token.Piece.Legible.word name).scanFrom column
        (' ' :: (front ++ '/' :: '/' :: back)) (by simp [Text.isSeparator])
      rw [Token.scanFrom_space, Token.scanFrom_comment visible unquoted first]
        at scanned
      refine ⟨_, line ▸ scanned, ?_⟩
      split
      · exact not_spellsBytes_name known
      · exact not_spellsBytes_cut named text
  | bracketed =>
      have line : (Attachment.bracketed.write encoding
          (base64Text bytes)).toList = (encoding.toList ++ '(' :: front) ++
            '/' :: '/' :: (back ++ [')']) := by
        simp [Attachment.write, base64Text, text]
      have unbroken : Token.Unbroken (encoding.toList ++ '(' :: front) := by
        refine name.toUnbroken.append_cons ⟨visible, ?_⟩ (by decide)
          (by decide)
        exact fun inside =>
          first (inside.trans (List.prefix_append front ['/']).isInfix)
      have unquoted : (encoding.toList ++ '(' :: front).head? ≠ some '"' := by
        rw [List.head?_append, (letters_of_encoding known).1]
        simp
      have early : ¬ ['/', '/'] <:+:
          (encoding.toList ++ '(' :: front) ++ ['/'] := by
        rw [List.append_assoc, List.cons_append]
        exact Token.not_infix_append_cons (by decide) name.uncommented first
      have scanned := Token.scanFrom_comment unbroken.visible unquoted early
        column (back ++ [')'])
      rw [if_neg (by simp)] at scanned
      refine ⟨_, line ▸ scanned, ?_⟩
      exact not_spellsBytes_unclosed known fun closing =>
        (plain ')' closing).2.2 rfl

theorem not_holds_of_commented {bytes : Bytes} {encoding operation : String}
    (commented : ['/', '/'] <:+: Codec.Base64.encode bytes)
    (named : encoding ∈ ["base64", "b64"]) (form : Attachment)
    (push : operation ∈ ["byte", "pushbytes"]) :
    ¬ HoldsInstruction (operation ++ " " ++
      form.write encoding (base64Text bytes)).toList (pushBytes bytes) := by
  have known := mem_constantOperations_of_push push
  have word := isWord_name (List.mem_append_right encodingNames known)
  obtain ⟨tokens, rest, unspelled⟩ := not_spellsBytes_of_commented commented
    named form (Token.columnAfter 1 operation.toList + 1)
  have scanned := (Token.Piece.Legible.word word).scanFrom 1
    (' ' :: (form.write encoding (base64Text bytes)).toList)
    (by simp [Text.isSeparator])
  rw [Token.scanFrom_space, rest] at scanned
  have line : (operation ++ " " ++
      form.write encoding (base64Text bytes)).toList = operation.toList ++
        ' ' :: (form.write encoding (base64Text bytes)).toList := by simp
  intro holds
  have accepted := accepted?_readLine_iff.mpr holds
  rw [line, readLine_of_scan known scanned] at accepted
  have read := accepted?_ok_iff.mp accepted
  exact unspelled (spellsBytes_of_push push (Body.instruction.inj read))

/-! ## Lines -/

/-- The constant that a byte string is in base64. -/
def base64Constant {bytes : Bytes} (nonempty : bytes ≠ [])
    (uncommented : ¬ ['/', '/'] <:+: Codec.Base64.encode bytes)
    {encoding : String} (named : encoding ∈ ["base64", "b64"])
    (form : Attachment) : Constant :=
  encodedConstant (mem_encodingNames_of_base64 named)
    (decodeNamed_base64 named bytes) (isWord_base64Text nonempty uncommented)
    form

private theorem text_base64Constant {bytes : Bytes} (nonempty : bytes ≠ [])
    (uncommented : ¬ ['/', '/'] <:+: Codec.Base64.encode bytes)
    {encoding : String} (named : encoding ∈ ["base64", "b64"])
    (form : Attachment) :
    (base64Constant nonempty uncommented named form).text =
      form.write encoding (base64Text bytes) := by
  apply String.toList_injective
  rw [toList_write, Constant.text, String.toList_ofList]
  rfl

/-- A non-empty byte string in base64, if no comment begins in its text, is
one constant: a line that pushes it encodes exactly its bytes, and a block
that lists it among other constants holds exactly its bytes in its place.  If
a comment begins in its text, no line that would push it pushes its bytes. -/
theorem base64_constants_spell_bytes {bytes : Bytes} (nonempty : bytes ≠ [])
    {encoding : String} (named : encoding ∈ ["base64", "b64"])
    (form : Attachment) :
    (¬ ['/', '/'] <:+: Codec.Base64.encode bytes →
        (∀ operation ∈ ["byte", "pushbytes"], ∀ source number,
          sourceLine? source number = some (operation ++ " " ++
            form.write encoding (base64Text bytes)).toList →
          LineEncodes source number
            (0x80 :: (Codec.varuint bytes.length ++ bytes))) ∧
        ∀ opcode ∈ blockOpcodes, ∀ (front back : List Constant) source number,
          sourceLine? source number = some (" ".intercalate (opcode.name ::
            (front.map Constant.text ++
              form.write encoding (base64Text bytes) ::
              back.map Constant.text))).toList →
          LineEncodes source number (opcode.code ::
            (Codec.varuint (front.length + 1 + back.length) ++
              (front.map Constant.bytes ++ bytes ::
                back.map Constant.bytes).flatMap fun value =>
                  Codec.varuint value.length ++ value))) ∧
      (['/', '/'] <:+: Codec.Base64.encode bytes →
        ∀ operation ∈ ["byte", "pushbytes"],
          ¬ HoldsInstruction (operation ++ " " ++
            form.write encoding (base64Text bytes)).toList
            (pushBytes bytes)) := by
  refine ⟨fun uncommented => ?_, fun commented _ push =>
    not_holds_of_commented commented named form push⟩
  have text := text_base64Constant nonempty uncommented named form
  constructor
  · intro operation push source number line
    apply lineEncodes_push push
      (base64Constant nonempty uncommented named form)
    rw [line, constantLine, List.map_singleton, text]
    simp
  · intro opcode block front back source number line
    have encoded := @lineEncodes_block source number opcode block
      (front ++ base64Constant nonempty uncommented named form :: back)
    rw [constantLine, List.map_append, List.map_cons, text] at encoded
    have count : (front ++ base64Constant nonempty uncommented named form ::
        back).length = front.length + 1 + back.length := by
      simp only [List.length_append, List.length_cons]
      omega
    rw [count] at encoded
    convert encoded line using 3
    simp only [List.flatMap_append, List.flatMap_cons, List.flatMap_map]
    rfl

/-- Slashes that stand apart, and padding: alone in brackets, and in front of
another constant. -/
theorem base64_constants_spell_bytes_padded :
    LineEncodes "byte b64(+/8=)" 1
        (0x80 :: (Codec.varuint 2 ++ [0xFB, 0xFF])) ∧
      LineEncodes "bytecblock base64 +/8= b64(AA==)" 1
        (0x26 :: (Codec.varuint 2 ++ [[0xFB, 0xFF], [0x00]].flatMap
          fun value => Codec.varuint value.length ++ value)) := by
  have nonempty : ([0xFB, 0xFF] : Bytes) ≠ [] := by decide
  have apart : ¬ ['/', '/'] <:+: Codec.Base64.encode [0xFB, 0xFF] := by
    decide
  have long : "base64" ∈ ["base64", "b64"] := by decide
  have short : "b64" ∈ ["base64", "b64"] := by decide
  constructor
  · exact ((base64_constants_spell_bytes nonempty short .bracketed).1 apart).1
      "byte" (by decide) _ 1 (by decide)
  · exact ((base64_constants_spell_bytes nonempty long .separate).1 apart).2
      ⟨"bytecblock", 0x26, [.byteBlock]⟩ (by decide) []
      [base64Constant (List.cons_ne_nil 0x00 []) (by decide)
        (by decide : "b64" ∈ ["base64", "b64"]) .bracketed]
      "bytecblock base64 +/8= b64(AA==)" 1 (by decide)

/-- A text that is cut off can still be valid, and then other bytes are pushed
without a fault. -/
theorem not_spelled_across_slashes :
    base64Text [0, 0, 0, 0xFF, 0xF0, 0] = "AAAA//AA" ∧
      ¬ LineEncodes "byte base64 AAAA//AA" 1
        (0x80 :: (Codec.varuint 6 ++ [0, 0, 0, 0xFF, 0xF0, 0])) := by
  have pushed : code "byte base64 AAAA//AA" = [0x80, 3, 0, 0, 0] := by
    decide +kernel
  refine ⟨by decide, fun encoded => ?_⟩
  obtain ⟨front, back, _, _, split, _⟩ := encoded.instruction
  have length := congrArg List.length split
  rw [pushed] at length
  simp at length
  omega

end TealTools.Assembly

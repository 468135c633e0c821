import TealTools.Proofs.Assembly.Mapping
import TealTools.Proofs.Codec.Base32
import TealTools.Proofs.Codec.Base64
import TealTools.Proofs.Codec.Hex
import TealTools.Proofs.Text.Size
import TealTools.Proofs.Token.Unfinished

/-!
# Code is not much longer than its source

An instruction takes at most two bytes for every byte of the tokens that spell
it.  The code of a program is therefore at most twice as long as its source,
and the program counters of its source map do not leave the range of machine
integers as long as the source is held in memory.
-/

namespace TealTools

/-! ## Tokens -/

namespace Token

/-- The least number of bytes in which a token is written. -/
def width (token : Token) : Nat :=
  match token.kind with
  | .word text => text.toList.length
  | .literal bytes => bytes.length + 2

def totalWidth (tokens : List Token) : Nat :=
  (tokens.map width).sum

@[simp] theorem totalWidth_cons (token : Token) (tokens : List Token) :
    totalWidth (token :: tokens) = token.width + totalWidth tokens :=
  List.sum_cons

@[simp] theorem totalWidth_singleton (token : Token) :
    totalWidth [token] = token.width :=
  Nat.add_zero _

@[simp] theorem totalWidth_append (front back : List Token) :
    totalWidth (front ++ back) = totalWidth front + totalWidth back := by
  rw [totalWidth, List.map_append, List.sum_append, totalWidth, totalWidth]

theorem width_of_word? {token : Token} {name : String}
    (word : token.word? = some name) : token.width = name.toList.length := by
  unfold word? at word
  split at word
  · rename_i text kind
    cases word
    rw [width, kind]
  · cases word

theorem width_of_literal {token : Token} {bytes : Bytes}
    (literal : token.kind = .literal bytes) :
    token.width = bytes.length + 2 := by
  rw [width, literal]

theorem length_text_le_width (token : Token) :
    token.text.toList.length ≤ token.width := by
  unfold text width
  cases token.kind with
  | word text => exact Nat.le_refl _
  | literal bytes =>
      have shorter := Text.length_ofUtf8_le bytes
      simp only [String.toList_ofList]
      omega

theorem SpellsLiteral.length_le {body : List Char} {bytes : Bytes}
    (spelled : SpellsLiteral body bytes) : bytes.length ≤ Text.size body := by
  induction spelled with
  | nil => exact Nat.le_refl 0
  | plain _ _ _ induction =>
      rw [List.length_append, Text.size_cons]
      omega
  | @escape c byte body bytes _ _ induction =>
      have written := Text.length_le_size ['\\', c]
      have split := Text.size_append ['\\', c] body
      simp only [List.length_cons, List.length_nil, List.cons_append,
        List.nil_append] at written split ⊢
      omega
  | @hexadecimal high low byte body bytes _ _ induction =>
      have written := Text.length_le_size ['\\', 'x', high, low]
      have split := Text.size_append ['\\', 'x', high, low] body
      simp only [List.length_cons, List.length_nil, List.cons_append,
        List.nil_append] at written split ⊢
      omega

private theorem width_of_legible {token : Token} {text : List Char}
    (legible : Piece.Legible ⟨token.kind, text⟩) :
    0 < token.width ∧ token.width ≤ Text.size text := by
  unfold width
  generalize token.kind = kind at legible
  cases legible with
  | @word text word =>
      exact ⟨List.length_pos_iff.mpr word.nonempty, Text.length_le_size _⟩
  | @literal body bytes spelled =>
      have inside := spelled.length_le
      have quotes : Text.size ('"' :: (body ++ ['"'])) =
          1 + (Text.size body + 1) := by
        rw [Text.size_cons, Text.size_append]
        rfl
      simp only [quotes]
      omega

/-- The tokens of a line are no wider than the line, and none is empty. -/
theorem totalWidth_le_of_scanFrom {column : Nat} {input : List Char}
    {tokens : List Token} (scanned : scanFrom column input = .ok tokens) :
    (∀ token ∈ tokens, 0 < token.width) ∧
      totalWidth tokens ≤ Text.size input := by
  fun_induction scanFrom column input generalizing tokens with
  | case1 column input done =>
      cases scanned
      exact ⟨List.forall_mem_nil _, Nat.zero_le _⟩
  | case2 column input fault stuck => cases scanned
  | case3 column input token next rest found induction =>
      cases later : scanFrom next rest with
      | error fault =>
          rw [later] at scanned
          cases scanned
      | ok others =>
          rw [later] at scanned
          cases scanned
          obtain ⟨positive, narrow⟩ := induction later
          obtain ⟨text, split, -, -, legible, -⟩ := stepAt_eq_found found
          have own := width_of_legible legible
          have whole : Text.size (input.dropWhile Text.isSeparator) =
              Text.size text + Text.size rest := by
            rw [split, Text.size_append]
          have dropped := Text.size_append
            (input.takeWhile Text.isSeparator)
            (input.dropWhile Text.isSeparator)
          rw [List.takeWhile_append_dropWhile] at dropped
          refine ⟨List.forall_mem_cons.mpr ⟨own.1, positive⟩, ?_⟩
          rw [totalWidth_cons]
          omega

end Token

namespace Assembly

open Token (totalWidth totalWidth_cons totalWidth_singleton
  totalWidth_append length_text_le_width)

/-! ## Numbers and bytes -/

private theorem length_varuint_le_of_nat? {radix bound value : Nat}
    {digits : List Char} (positive : 0 < radix) (low : radix ≤ 0x80)
    (read : Text.nat? radix bound digits = some value) :
    (Codec.varuint value).length ≤ max 1 digits.length :=
  Codec.length_varuint_le (Nat.lt_of_lt_of_le (Text.nat?_lt positive read)
    (Nat.pow_le_pow_left low _))

private theorem namedInt?_lt {name : String} {value : Nat}
    (named : Opcode.namedInt? name = some value) : value < 0x80 := by
  have small : ∀ entry ∈ Opcode.intNames, entry.2 < 0x80 := by decide
  obtain ⟨_, _, split, _⟩ := List.lookup_eq_some_iff.mp named
  exact small (name, value) (by rw [split]; simp)

private theorem length_varuint_le_of_uint? {text : String} {value : Nat}
    (read : uint? text = some value) :
    (Codec.varuint value).length ≤ max 1 text.toList.length := by
  unfold uint? at read
  split at read
  · rename_i number named
    cases read
    rw [Codec.varuint_of_lt (namedInt?_lt named)]
    exact Nat.le_max_left 1 _
  · split at read
    · rename_i digits spelled
      have short := length_varuint_le_of_nat? (by decide) (by decide) read
      rw [spelled, List.length_cons, List.length_cons]
      omega
    · cases read
      rw [Codec.varuint_of_lt (by decide)]
      exact Nat.le_max_left 1 _
    · rename_i digits _ _ spelled
      have short := length_varuint_le_of_nat? (by decide) (by decide) read
      rw [spelled, List.length_cons]
      omega
    · exact length_varuint_le_of_nat? (by decide) (by decide) read

private theorem length_le_of_decoder? {encoding : String}
    {decode : List Char → Option Bytes} {text : List Char} {bytes : Bytes}
    (known : decoder? encoding = some decode)
    (decoded : decode text = some bytes) : bytes.length ≤ text.length := by
  unfold decoder? at known
  split at known
  · cases known
    exact Codec.Base64.length_le_of_decode? decoded
  · split at known
    · cases known
      exact Codec.Base32.length_le_of_decode? decoded
    · cases known

private theorem length_encodeString_le (value : Bytes) :
    (Operand.encodeString value).length ≤ 2 * value.length + 1 := by
  have prefixed := Codec.length_varuint_le_succ value.length
  rw [Operand.encodeString, List.length_append]
  omega

private theorem length_offsets (goals : List Int16) :
    (goals.flatMap Operand.encodeOffset).length = 2 * goals.length := by
  induction goals with
  | nil => rfl
  | cons goal goals induction =>
      have own : (Operand.encodeOffset goal).length = 2 := rfl
      rw [List.flatMap_cons, List.length_append, List.length_cons]
      omega

/-! ## Instructions -/

section

variable {tokens : List Token}

theorem length_le_totalWidth (positive : ∀ token ∈ tokens, 0 < token.width) :
    tokens.length ≤ totalWidth tokens := by
  induction tokens with
  | nil => exact Nat.zero_le _
  | cons token tokens induction =>
      obtain ⟨first, others⟩ := List.forall_mem_cons.mp positive
      have shorter := induction others
      rw [totalWidth_cons, List.length_cons]
      omega

theorem SpellsBytes.length_lt {value : Bytes}
    (spells : SpellsBytes tokens value)
    (positive : ∀ token ∈ tokens, 0 < token.width) :
    value.length < totalWidth tokens := by
  cases spells with
  | literal literal =>
      rw [totalWidth_singleton, Token.width_of_literal literal]
      omega
  | hexadecimal word decoded =>
      have shorter := Codec.Hex.length_le_of_decode? decoded
      rw [totalWidth_singleton, Token.width_of_word? word,
        String.toList_append, List.length_append]
      have front : "0x".toList.length = 2 := by decide
      omega
  | bracketed word known decoded =>
      have shorter := length_le_of_decoder? known decoded
      rw [totalWidth_singleton, Token.width_of_word? word]
      simp only [String.toList_append, List.length_append]
      have brackets : "(".toList.length = 1 := by decide
      omega
  | @separate token payload encoding decode bytes word known decoded =>
      have shorter := length_le_of_decoder? known decoded
      have written := length_text_le_width payload
      have first := positive token List.mem_cons_self
      rw [totalWidth_cons, totalWidth_singleton]
      omega

theorem SpellsStrings.length_le {values : List Bytes}
    (spells : SpellsStrings tokens values)
    (positive : ∀ token ∈ tokens, 0 < token.width) :
    values.length + (values.flatMap Operand.encodeString).length ≤
      2 * totalWidth tokens := by
  induction spells with
  | nil => exact Nat.le_refl 0
  | @cons front back value values first _ induction =>
      have own := first.length_lt fun token member =>
        positive token (List.mem_append_left back member)
      have others := induction fun token member =>
        positive token (List.mem_append_right front member)
      have string := length_encodeString_le value
      rw [totalWidth_append, List.length_cons, List.flatMap_cons,
        List.length_append]
      omega

private theorem length_ints_le {values : List Nat}
    (spells : List.Forall₂ (fun token value => uint? token.text = some value)
      tokens values) (positive : ∀ token ∈ tokens, 0 < token.width) :
    values.length + (values.flatMap Codec.varuint).length ≤
      2 * totalWidth tokens := by
  induction spells with
  | nil => exact Nat.le_refl 0
  | @cons token value tokens values first _ induction =>
      obtain ⟨own, others⟩ := List.forall_mem_cons.mp positive
      have short := length_varuint_le_of_uint? first
      have written := length_text_le_width token
      have rest := induction others
      rw [totalWidth_cons, List.length_cons, List.flatMap_cons,
        List.length_append]
      omega

theorem Spells.length_draft_le {kind : ImmediateKind}
    {operand : Operand (At String)} (spells : Spells kind tokens operand)
    (positive : ∀ token ∈ tokens, 0 < token.width) :
    operand.draft.length ≤ 1 + 2 * totalWidth tokens := by
  have many := length_le_totalWidth positive
  cases spells with
  | u8 => exact Nat.le_add_right 1 _
  | i8 => exact Nat.le_add_right 1 _
  | field => exact Nat.le_add_right 1 _
  | @varuint token value read =>
      have short := length_varuint_le_of_uint? read
      have written := length_text_le_width token
      simp only [Operand.draft, Operand.map, Operand.encode,
        totalWidth_singleton]
      omega
  | @bytes _ value spelled =>
      have inside := spelled.length_lt positive
      have string := length_encodeString_le value
      simp only [Operand.draft, Operand.map, Operand.encode]
      omega
  | label =>
      simp only [Operand.draft, Operand.map, Operand.encode,
        Operand.encodeOffset, List.length_cons, List.length_nil] at many ⊢
      omega
  | @labels _ targets _ spelled =>
      simp only [Operand.draft, Operand.map, Operand.encode,
        List.length_cons, length_offsets, List.length_map,
        ← spelled.length_eq]
      omega
  | @intBlock _ values spelled =>
      have inside := length_ints_le spelled positive
      have counted := Codec.length_varuint_le_succ values.length
      simp only [Operand.draft, Operand.map, Operand.encode,
        List.length_append]
      omega
  | @byteBlock _ values spelled =>
      have inside := spelled.length_le positive
      have counted := Codec.length_varuint_le_succ values.length
      simp only [Operand.draft, Operand.map, Operand.encode,
        List.length_append]
      omega

theorem SpellsAll.length_le {kinds : List ImmediateKind}
    {operands : List (Operand (At String))}
    (spells : SpellsAll kinds tokens operands)
    (positive : ∀ token ∈ tokens, 0 < token.width) :
    (operands.flatMap Operand.draft).length ≤
      kinds.length + 2 * totalWidth tokens := by
  induction spells with
  | nil => exact Nat.le_refl 0
  | @cons kind kinds front back operand operands first _ induction =>
      have own := first.length_draft_le fun token member =>
        positive token (List.mem_append_left back member)
      have others := induction fun token member =>
        positive token (List.mem_append_right front member)
      rw [totalWidth_append, List.length_cons, List.flatMap_cons,
        List.length_append]
      omega

/-- Operations with more than one immediate have longer names. -/
private theorem length_immediates_le : ∀ opcode ∈ Opcode.all,
    opcode.immediates.length ≤ 1 ∨
      opcode.immediates.length + 1 ≤ 2 * opcode.name.toList.length := by
  decide +kernel

private theorem size_pushBytes_le (value : Bytes) :
    (pushBytes value).size ≤ 2 * (value.length + 1) := by
  have string := length_encodeString_le value
  simp only [Instruction.size, Instruction.draft_eq, pushBytes,
    Operand.draft, Operand.map, Operand.encode, List.flatMap_cons,
    List.flatMap_nil, List.append_nil, List.length_cons]
  omega

private theorem length_le_of_decodeAddress?
    {text : List Char} {publicKey : Bytes}
    (decoded : decodeAddress? text = some publicKey) :
    publicKey.length ≤ text.length := by
  unfold decodeAddress? at decoded
  split at decoded
  · cases decoded
  · obtain ⟨bytes, read, decoded⟩ := Option.bind_eq_some_iff.mp decoded
    split at decoded
    · cases decoded
    · simp only at decoded
      split at decoded
      · cases decoded
        have shorter := Codec.Base32.length_le_of_decode? read
        rw [List.length_take]
        omega
      · cases decoded

/-- An instruction takes at most two bytes for every byte of its tokens. -/
theorem SpellsInstruction.size_le {name : String}
    {instruction : Instruction (At String)}
    (spells : SpellsInstruction name tokens instruction)
    (named : 0 < name.toList.length)
    (positive : ∀ token ∈ tokens, 0 < token.width) :
    instruction.size ≤ 2 * (name.toList.length + totalWidth tokens) := by
  cases spells with
  | @opcode opcode _ operands known spelled =>
      have inside := spelled.length_le positive
      have room := length_immediates_le opcode known
      simp only [Instruction.size, Instruction.draft_eq, List.length_cons]
      omega
  | @int token value read =>
      have short := length_varuint_le_of_uint? read
      have written := length_text_le_width token
      have own := positive token List.mem_cons_self
      simp only [Instruction.size, Instruction.draft_eq, pushInt,
        Operand.draft, Operand.map, Operand.encode, List.flatMap_cons,
        List.flatMap_nil, List.append_nil, List.length_cons,
        totalWidth_singleton]
      omega
  | @byte _ value spelled =>
      have inside := spelled.length_lt positive
      have bound := size_pushBytes_le value
      omega
  | @address token publicKey decoded =>
      have inside := length_le_of_decodeAddress? decoded
      have written := length_text_le_width token
      have bound := size_pushBytes_le publicKey
      have name : "addr".toList.length = 4 := by decide
      rw [totalWidth_singleton]
      omega
  | @method token signature literal =>
      have bound := size_pushBytes_le (methodSelector signature)
      have selector : (methodSelector signature).length ≤ 4 :=
        List.length_take_le 4 _
      have name : "method".toList.length = 6 := by decide
      omega

end

/-! ## Programs -/

theorem BehindLabel.suffix {tokens behind : List Token}
    (label : BehindLabel tokens behind) : behind <:+ tokens := by
  cases label with
  | labelled => exact List.suffix_cons _ _
  | plain => exact List.suffix_refl _

theorem HoldsInstruction.size_le {text : List Char}
    {instruction : Instruction (At String)}
    (holds : HoldsInstruction text instruction) :
    instruction.size ≤ 2 * Text.size text := by
  obtain ⟨scanned, label, word, -, read⟩ := holds
  rename_i tokens arguments operation name
  obtain ⟨front, whole⟩ := label.suffix
  obtain ⟨positive, narrow⟩ := Token.totalWidth_le_of_scanFrom scanned
  rw [← whole, List.forall_mem_append, List.forall_mem_cons,
    Token.width_of_word? word] at positive
  rw [← whole, totalWidth_append, totalWidth_cons,
    Token.width_of_word? word] at narrow
  have bound : instruction.size ≤
      2 * (name.toList.length + totalWidth arguments) :=
    (readInstruction_eq_ok read).size_le positive.2.1 positive.2.2
  omega

private theorem base_le_of_mem_emittedFrom {offset line : Nat}
    {lines : List (List Char)} {item : Emitted}
    (member : item ∈ emittedFrom offset line (lines.map readLine)) :
    item.base ≤ offset + 2 * Text.totalSize lines := by
  induction lines generalizing offset line with
  | nil => cases member
  | cons text lines induction =>
      rw [List.map_cons, emittedFrom] at member
      rw [Text.totalSize]
      split at member
      · have later := induction member
        omega
      · rename_i instruction accepted
        have bound := (accepted?_readLine_iff.mp accepted).size_le
        rcases List.mem_cons.mp member with rfl | behind
        · simp only [Emitted.base]
          omega
        · have later := induction behind
          omega

/-- Program counters of a source map are bounded by the size of the source. -/
theorem pc_le_of_mem_entries {source : String} {pc number : Nat}
    (listed : (pc, number) ∈ (assemble source).sourceMap.entries) :
    pc ≤ 2 * Text.size source.toList := by
  obtain ⟨item, member, rfl, -⟩ := mem_entries_iff.mp listed
  have bound := base_le_of_mem_emittedFrom member
  have lines := Text.totalSize_lines_le source.toList
  have room := size_pos item.instruction
  rw [Emitted.base] at bound
  omega

end Assembly

end TealTools

import TealTools.Assembly.Operands
import TealTools.Proofs.Codec.Hex

/-!
# Hexadecimal constants

What stands behind `0x` is read in pairs of characters.  Where no plus sign
occurs, the digits of the bytes in either case are read and nothing else; every
text that is not read is a fault of its word.
-/

namespace TealTools.Assembly

open Codec.Hex (IsDigit ReadsPair)

/-- A word that announces hexadecimal digits. -/
def hexWord (text : List Char) : String := String.ofList ('0' :: 'x' :: text)

theorem constantForm_hexWord (text : List Char) (column : Nat) :
    constantForm ⟨.word (hexWord text), column⟩ =
      match Codec.Hex.decode? text with
      | some bytes => .ok (.complete bytes)
      | none => .error (.invalidByteConstant (hexWord text)) := by
  cases decoded : Codec.Hex.decode? text <;>
    simp only [constantForm, hexWord, String.toList_ofList, decoded]

private theorem readConstant_hexWord (text : List Char) (column : Nat)
    (missing : At Fault) (rest : List Token) :
    readConstant missing (⟨.word (hexWord text), column⟩ :: rest) =
      match Codec.Hex.decode? text with
      | some bytes => .ok (bytes, rest)
      | none => .error ⟨column, .invalidByteConstant (hexWord text)⟩ := by
  rw [readConstant, constantForm_hexWord]
  cases Codec.Hex.decode? text <;> rfl

/-- A text is read in pairs of characters, one byte for each: two digits, or a
plus sign and one digit.  Without a plus sign it is read exactly if it consists
of digits of either case and an even number of them, as the bytes whose
lower-case digits it holds.  Behind `0x` in a byte constant, a text that is not
read is refused at its column, with the word as it stands. -/
theorem hexadecimal_texts_read_in_pairs (text : List Char) (bytes : Bytes) :
    (Codec.Hex.decode? text = some bytes ↔
      text.length = 2 * bytes.length ∧
        ∀ index byte, bytes[index]? = some byte → ∃ high low,
          text[2 * index]? = some high ∧ text[2 * index + 1]? = some low ∧
            ReadsPair high low byte) ∧
    ('+' ∉ text →
      ((∃ read, Codec.Hex.decode? text = some read) ↔
        text.length % 2 = 0 ∧ ∀ c ∈ text, IsDigit c) ∧
      (Codec.Hex.decode? text = some bytes ↔
        Codec.Hex.encode bytes = text.map Char.toLower)) ∧
    ∀ column missing rest,
      readConstant missing (⟨.word (hexWord text), column⟩ :: rest) =
        match Codec.Hex.decode? text with
        | some read => .ok (read, rest)
        | none => .error ⟨column, .invalidByteConstant (hexWord text)⟩ := by
  refine ⟨Codec.Hex.decode?_eq_some_iff.trans Codec.Hex.reads_iff, ?_,
    readConstant_hexWord text⟩
  intro unsigned
  have spells (read : Bytes) : Codec.Hex.decode? text = some read ↔
      Codec.Hex.Spells text read :=
    ⟨Codec.Hex.spells_of_decode? unsigned, Codec.Hex.decode?_of_spells⟩
  constructor
  · rw [exists_congr spells]
    exact Codec.Hex.exists_spells_iff
  · rw [spells]
    exact Codec.Hex.spells_iff_encode

theorem hexadecimal_texts_read_in_pairs_mixedCase :
    '+' ∉ ['4', 'a', 'F', 'f'] ∧
      (Codec.Hex.decode? ['4', 'a', 'F', 'f'] = some [0x4A, 0xFF] ↔
        Codec.Hex.encode [0x4A, 0xFF] = ['4', 'a', 'f', 'f']) ∧
      ((∃ read, Codec.Hex.decode? ['4', 'a', 'F', 'g'] = some read) ↔
        ['4', 'a', 'F', 'g'].length % 2 = 0 ∧
          ∀ c ∈ ['4', 'a', 'F', 'g'], IsDigit c) :=
  ⟨by decide,
    ((hexadecimal_texts_read_in_pairs ['4', 'a', 'F', 'f'] [0x4A, 0xFF]).2.1
      (by decide)).2,
    ((hexadecimal_texts_read_in_pairs ['4', 'a', 'F', 'g'] []).2.1
      (by decide)).1⟩

/-- A plus sign is no digit, but a pair that begins with one is read. -/
theorem not_only_digits_are_read :
    ¬ (Codec.Hex.decode? ['+', 'f'] = some [0x0F] ↔
      ['+', 'f'].length % 2 = 0 ∧ (∀ c ∈ ['+', 'f'], IsDigit c) ∧
        Codec.Hex.encode [0x0F] = ['+', 'f'].map Char.toLower) := by
  intro same
  have digits : ∀ c ∈ ['+', 'f'], IsDigit c := (same.mp (by decide)).2.1
  exact absurd (digits '+' (by decide)) (by decide)

end TealTools.Assembly

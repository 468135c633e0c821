import Mathlib.Algebra.Group.Nat.Defs
import TealTools.Text.Lines
import TealTools.Text.Numeral
import TealTools.Text.Utf8

/-!
# The size of a text

A text takes at least one byte for every character.  Its lines take no more
than the text itself, and a number is bounded by the length of the digits that
it is read from.
-/

namespace TealTools.Text

/-- The number of bytes that a text takes. -/
def size (text : List Char) : Nat :=
  (utf8 text).length

@[simp] theorem size_append (front back : List Char) :
    size (front ++ back) = size front + size back := by
  rw [size, utf8, List.flatMap_append, List.length_append, size, size, utf8,
    utf8]

@[simp] theorem size_cons (c : Char) (text : List Char) :
    size (c :: text) = (String.utf8EncodeChar c).length + size text := by
  rw [size, utf8, List.flatMap_cons, List.length_append, size, utf8]

theorem length_le_size (text : List Char) : text.length ≤ size text := by
  induction text with
  | nil => exact Nat.le_refl 0
  | cons c text induction =>
      have positive : 0 < (String.utf8EncodeChar c).length := by
        rw [String.length_utf8EncodeChar]
        exact c.utf8Size_pos
      rw [size_cons, List.length_cons]
      omega

private theorem length_readChars_le (bytes : Bytes) :
    (readChars bytes).length ≤ bytes.length := by
  fun_induction readChars bytes with
  | case1 => exact Nat.le_refl 0
  | case2 first rest induction =>
      have shorter : (rest.drop (readChar first rest).2).length ≤ rest.length :=
        (List.drop_sublist _ rest).length_le
      rw [List.length_cons, List.length_cons]
      omega

theorem length_ofUtf8_le (bytes : Bytes) :
    (ofUtf8 bytes).length ≤ bytes.length := by
  rw [ofUtf8, List.length_map]
  exact length_readChars_le bytes

/-! ## Lines -/

/-- The bytes that texts take together. -/
def totalSize : List (List Char) → Nat
  | [] => 0
  | text :: texts => size text + totalSize texts

theorem totalSize_split_le (separator : Char) (text : List Char) :
    totalSize (split separator text) ≤ size text := by
  induction text with
  | nil => exact Nat.le_refl 0
  | cons c text induction =>
      rw [split, size_cons]
      split
      · rw [totalSize]
        have nothing : size [] = 0 := rfl
        omega
      · cases pieces : split separator text with
        | nil =>
            rw [totalSize, size_cons]
            have nothing : size [] = 0 ∧ totalSize [] = 0 := ⟨rfl, rfl⟩
            omega
        | cons piece more =>
            rw [pieces, totalSize] at induction
            simp only [totalSize, size_cons]
            omega

private theorem size_dropReturn_le (line : List Char) :
    size (dropReturn line) ≤ size line := by
  induction line with
  | nil => exact Nat.le_refl 0
  | cons c rest induction =>
      cases rest with
      | nil =>
          rw [dropReturn]
          split
          · exact Nat.zero_le _
          · exact Nat.le_refl _
      | cons next rest =>
          rw [dropReturn, size_cons, size_cons]
          · omega
          · exact List.cons_ne_nil next rest

private theorem totalSize_finishLines_le (pieces : List (List Char)) :
    totalSize (finishLines pieces) ≤ totalSize pieces := by
  induction pieces with
  | nil => exact Nat.le_refl 0
  | cons line more induction =>
      cases more with
      | nil =>
          rw [finishLines]
          split
          · exact Nat.zero_le _
          · exact Nat.le_refl _
      | cons next more =>
          have shorter := size_dropReturn_le line
          rw [finishLines, totalSize, totalSize]
          · omega
          · exact List.cons_ne_nil next more

theorem totalSize_lines_le (text : List Char) :
    totalSize (lines text) ≤ size text :=
  Nat.le_trans (totalSize_finishLines_le _) (totalSize_split_le '\n' text)

/-! ## Numbers -/

theorem digitValue?_lt {radix value : Nat} {c : Char}
    (found : digitValue? radix c = some value) : value < radix := by
  simp only [digitValue?, Option.ite_none_right_eq_some,
    Option.some.injEq] at found
  exact found.2 ▸ found.1

theorem digitsValue?_lt {radix front value : Nat} {digits : List Char}
    (read : digitsValue? radix front digits = some value) :
    value < (front + 1) * radix ^ digits.length := by
  induction digits generalizing front with
  | nil =>
      cases read
      simp
  | cons c digits induction =>
      obtain ⟨digit, first, later⟩ := Option.bind_eq_some_iff.mp read
      have small := digitValue?_lt first
      have whole : (front * radix + digit + 1) * radix ^ digits.length ≤
          (front + 1) * radix * radix ^ digits.length := by
        apply Nat.mul_le_mul_right
        rw [Nat.add_mul, Nat.one_mul]
        omega
      rw [List.length_cons, Nat.pow_succ', ← Nat.mul_assoc]
      exact Nat.lt_of_lt_of_le (induction later) whole

theorem digits?_lt {radix value : Nat} {digits : List Char}
    (read : digits? radix digits = some value) :
    value < radix ^ digits.length := by
  cases digits with
  | nil => cases read
  | cons c digits =>
      have bound := digitsValue?_lt read
      rw [Nat.zero_add, Nat.one_mul] at bound
      exact bound

/-- A number has no more digits than the text that it is read from has
characters. -/
theorem nat?_lt {radix bound value : Nat} {text : List Char}
    (positive : 0 < radix) (read : nat? radix bound text = some value) :
    value < radix ^ text.length := by
  have kept : ∀ digits, ((digits? radix digits).bind fun number =>
        if number < bound then some number else none) = some value →
      value < radix ^ digits.length := by
    intro digits read
    obtain ⟨number, written, below⟩ := Option.bind_eq_some_iff.mp read
    rw [Option.ite_none_right_eq_some, Option.some.injEq] at below
    exact below.2 ▸ digits?_lt written
  unfold nat? at read
  split at read
  · exact Nat.lt_of_lt_of_le (kept _ read)
      (Nat.pow_le_pow_right positive (Nat.le_succ _))
  · exact kept _ read

end TealTools.Text

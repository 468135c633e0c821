import Mathlib.Tactic.SplitIfs
import TealTools.Codec.Base64

/-!
# Base64 text

Every byte string has exactly one text.  Reading accepts that text and no
other, so that a text which is cut short never spells the same bytes.
-/

namespace TealTools.Codec.Base64

/-! ## The alphabet -/

theorem value?_char {value : Nat} (small : value < 64) :
    value? (char value) = some value := by
  revert value
  decide

private theorem char_ne_padding {value : Nat} (small : value < 64) :
    char value ≠ '=' := by
  revert value
  decide

theorem char_of_value? {c : Char} {value : Nat}
    (found : value? c = some value) : value < 64 ∧ char value = c := by
  have bounds (low high : Char) : low ≤ c ∧ c ≤ high →
      low.toNat ≤ c.toNat ∧ c.toNat ≤ high.toNat := id
  have whole {code : Nat} (same : code = c.toNat) : Char.ofNat code = c :=
    same ▸ Char.ofNat_toNat c
  unfold value? at found
  split_ifs at found with upper lower digit plus slash
  · have := bounds 'A' 'Z' upper
    simp only [Option.some.injEq, Char.reduceToNat] at found this
    rw [char, if_pos (by omega)]
    exact ⟨by omega, whole (by simp only [Char.reduceToNat]; omega)⟩
  · have := bounds 'a' 'z' lower
    simp only [Option.some.injEq, Char.reduceToNat] at found this
    rw [char, if_neg (by omega), if_pos (by omega)]
    exact ⟨by omega, whole (by simp only [Char.reduceToNat]; omega)⟩
  · have := bounds '0' '9' digit
    simp only [Option.some.injEq, Char.reduceToNat] at found this
    rw [char, if_neg (by omega), if_neg (by omega), if_pos (by omega)]
    exact ⟨by omega, whole (by simp only [Char.reduceToNat]; omega)⟩
  · cases found
    exact ⟨by decide, plus.symm⟩
  · cases found
    exact ⟨by decide, slash.symm⟩

/-! ## Texts -/

/-- A property of the alphabet and the padding is one of every text. -/
theorem forall_mem_encode {holds : Char → Prop}
    (alphabet : ∀ value < 64, holds (char value)) (padding : holds '=')
    (bytes : Bytes) : ∀ c ∈ encode bytes, holds c := by
  fun_induction encode bytes with
  | case1 => simp
  | case2 x =>
      have := x.toNat_lt
      simp only [List.mem_cons, List.not_mem_nil, or_false, forall_eq_or_imp,
        forall_eq]
      exact ⟨alphabet _ (by omega), alphabet _ (by omega), padding, padding⟩
  | case3 x y =>
      have := x.toNat_lt
      have := y.toNat_lt
      simp only [List.mem_cons, List.not_mem_nil, or_false, forall_eq_or_imp,
        forall_eq]
      exact ⟨alphabet _ (by omega), alphabet _ (by omega),
        alphabet _ (by omega), padding⟩
  | case4 x y z rest induction =>
      have := x.toNat_lt
      have := y.toNat_lt
      have := z.toNat_lt
      simp only [List.mem_cons, forall_eq_or_imp]
      exact ⟨alphabet _ (by omega), alphabet _ (by omega),
        alphabet _ (by omega), alphabet _ (by omega), induction⟩

private theorem ofNat_eq_of_mod {number : Nat} {byte : UInt8}
    (same : number % 256 = byte.toNat) : UInt8.ofNat number = byte :=
  UInt8.toNat_inj.mp (UInt8.toNat_ofNat' ▸ same)

@[simp] theorem decode?_encode (bytes : Bytes) :
    decode? (encode bytes) = some bytes := by
  fun_induction encode bytes with
  | case1 => rfl
  | case2 x =>
      have := x.toNat_lt
      rw [decode?, value?_char (by omega), value?_char (by omega)]
      simp only [Option.bind_eq_bind, Option.bind_some]
      rw [if_pos (by omega)]
      simp only [Option.some.injEq, List.cons.injEq, and_true]
      exact ofNat_eq_of_mod (by omega)
  | case3 x y =>
      have := x.toNat_lt
      have := y.toNat_lt
      have unpadded : char (y.toNat % 16 * 4) ≠ '=' :=
        char_ne_padding (by omega)
      rw [decode?, value?_char (by omega), value?_char (by omega),
        value?_char (by omega)]
      · simp only [Option.bind_eq_bind, Option.bind_some]
        rw [if_pos (by omega)]
        simp only [Option.some.injEq, List.cons.injEq, and_true]
        exact ⟨ofNat_eq_of_mod (by omega), ofNat_eq_of_mod (by omega)⟩
      · exact unpadded
  | case4 x y z rest induction =>
      have := x.toNat_lt
      have := y.toNat_lt
      have := z.toNat_lt
      have unpadded : char (z.toNat % 64) ≠ '=' := char_ne_padding (by omega)
      rw [decode?, value?_char (by omega), value?_char (by omega),
        value?_char (by omega), value?_char (by omega), induction]
      · simp only [Option.bind_eq_bind, Option.bind_some, Option.pure_def,
          Option.some.injEq, List.cons.injEq, and_true]
        exact ⟨ofNat_eq_of_mod (by omega), ofNat_eq_of_mod (by omega),
          ofNat_eq_of_mod (by omega)⟩
      · exact fun _ padding => absurd padding unpadded
      · exact fun padding => absurd padding unpadded

theorem encode_of_decode? {text : List Char} {bytes : Bytes}
    (read : decode? text = some bytes) : encode bytes = text := by
  fun_induction decode? text generalizing bytes with
  | case1 =>
      cases read
      rfl
  | case2 a b =>
      simp only [Option.bind_eq_bind, Option.bind_eq_some_iff] at read
      obtain ⟨u, first, v, second, read⟩ := read
      split at read
      · cases read
        obtain ⟨_, rfl⟩ := char_of_value? first
        obtain ⟨_, rfl⟩ := char_of_value? second
        simp only [encode, UInt8.toNat_ofNat', List.cons.injEq, and_true]
        exact ⟨congrArg char (by omega), congrArg char (by omega)⟩
      · cases read
  | case3 a b c =>
      simp only [Option.bind_eq_bind, Option.bind_eq_some_iff] at read
      obtain ⟨u, first, v, second, w, third, read⟩ := read
      split at read
      · cases read
        obtain ⟨_, rfl⟩ := char_of_value? first
        obtain ⟨_, rfl⟩ := char_of_value? second
        obtain ⟨_, rfl⟩ := char_of_value? third
        simp only [encode, UInt8.toNat_ofNat', List.cons.injEq, and_true]
        exact ⟨congrArg char (by omega), congrArg char (by omega),
          congrArg char (by omega)⟩
      · cases read
  | case4 a b c d rest _ _ induction =>
      simp only [Option.bind_eq_bind, Option.bind_eq_some_iff,
        Option.pure_def, Option.some.injEq] at read
      obtain ⟨u, first, v, second, w, third, t, fourth, more, behind, rfl⟩ :=
        read
      obtain ⟨_, rfl⟩ := char_of_value? first
      obtain ⟨_, rfl⟩ := char_of_value? second
      obtain ⟨_, rfl⟩ := char_of_value? third
      obtain ⟨_, rfl⟩ := char_of_value? fourth
      simp only [encode, UInt8.toNat_ofNat', List.cons.injEq,
        induction behind, and_true]
      exact ⟨congrArg char (by omega), congrArg char (by omega),
        congrArg char (by omega), congrArg char (by omega)⟩
  | case5 => cases read

/-- A text spells at most one byte string, and each byte string has one
text. -/
theorem decode?_eq_some_iff {text : List Char} {bytes : Bytes} :
    decode? text = some bytes ↔ text = encode bytes := by
  constructor
  · intro read
    exact (encode_of_decode? read).symm
  · rintro rfl
    exact decode?_encode bytes

theorem length_le_of_decode? {text : List Char} {bytes : Bytes}
    (decoded : decode? text = some bytes) : bytes.length ≤ text.length := by
  rw [decode?_eq_some_iff] at decoded
  subst decoded
  fun_induction encode bytes with
  | case1 => exact Nat.le_refl 0
  | case2 x => exact Nat.le_add_left 1 3
  | case3 x y => exact Nat.le_add_left 2 2
  | case4 x y z rest induction =>
      simp only [List.length_cons]
      omega

end TealTools.Codec.Base64

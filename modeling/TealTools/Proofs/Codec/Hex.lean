import TealTools.Codec.Hex
import TealTools.Proofs.Text.Numeral
import TealTools.Proofs.Text.Size

/-!
# Hexadecimal text

Bytes are read from two characters each.  Two digits, the high half first and
in either case, make up a byte; a plus sign in place of the first digit counts
as none.
-/

namespace TealTools.Codec.Hex

open Text (digitValue? digitValue?_lt isAlphanum_of_digitValue?)

/-! ## Digits -/

/-- A digit, with letters of either case. -/
def IsDigit (c : Char) : Prop :=
  ('0' ≤ c ∧ c ≤ '9') ∨ ('a' ≤ c ∧ c ≤ 'f') ∨ ('A' ≤ c ∧ c ≤ 'F')

instance : DecidablePred IsDigit := fun c =>
  inferInstanceAs (Decidable (('0' ≤ c ∧ c ≤ '9') ∨ ('a' ≤ c ∧ c ≤ 'f') ∨
    ('A' ≤ c ∧ c ≤ 'F')))

private theorem digit_eq_digitChar {value : Nat} (small : value < 16) :
    digit value = value.digitChar := by
  revert value
  decide

private theorem digitValue?_digit {value : Nat} (small : value < 16) :
    digitValue? 16 (digit value) = some value := by
  rw [digit_eq_digitChar small]
  exact Text.digitValue?_digitChar (Nat.le_refl 16) small

theorem digitValue?_eq_some_iff {c : Char} {value : Nat} :
    digitValue? 16 c = some value ↔ value < 16 ∧ c.toLower = digit value := by
  constructor
  · intro found
    have table : ∀ code < 128, ∀ value ∈ digitValue? 16 (Char.ofNat code),
        (Char.ofNat code).toLower = digit value := by decide
    have own := table c.toNat
      (Text.toNat_lt_of_isAlphanum (isAlphanum_of_digitValue? found)) value
    rw [Char.ofNat_toNat] at own
    exact ⟨digitValue?_lt found, own found⟩
  · rintro ⟨small, same⟩
    rw [← Text.digitValue?_toLower, same, digitValue?_digit small]

theorem isDigit_iff {c : Char} :
    IsDigit c ↔ ∃ value, digitValue? 16 c = some value := by
  have table : ∀ code < 128, IsDigit (Char.ofNat code) ↔
      (digitValue? 16 (Char.ofNat code)).isSome = true := by decide
  have bounds (high : Char) : c ≤ high → c.toNat ≤ high.toNat := id
  rw [← Option.isSome_iff_exists]
  have own := table c.toNat
  rw [Char.ofNat_toNat] at own
  constructor
  · intro digit
    have ascii : c.toNat < 128 := by
      rcases digit with ⟨-, high⟩ | ⟨-, high⟩ | ⟨-, high⟩
      · exact Nat.lt_of_le_of_lt (bounds '9' high) (by decide)
      · exact Nat.lt_of_le_of_lt (bounds 'f' high) (by decide)
      · exact Nat.lt_of_le_of_lt (bounds 'F' high) (by decide)
    exact (own ascii).mp digit
  · intro found
    obtain ⟨value, found⟩ := Option.isSome_iff_exists.mp found
    have ascii := Text.toNat_lt_of_isAlphanum (isAlphanum_of_digitValue? found)
    rw [found] at own
    exact (own ascii).mpr rfl

/-! ## Pairs -/

/-- A pair of characters that is read as a byte: two digits, or a plus sign and
one digit. -/
inductive ReadsPair : Char → Char → UInt8 → Prop where
  | digits {high low : Char} {byte : UInt8} :
      digitValue? 16 high = some (byte.toNat / 16) →
      digitValue? 16 low = some (byte.toNat % 16) → ReadsPair high low byte
  | signed {low : Char} {byte : UInt8} :
      digitValue? 16 low = some byte.toNat → ReadsPair '+' low byte

private theorem digits?_single (c : Char) :
    Text.digits? 16 [c] = digitValue? 16 c := by
  simp [Text.digits?, Text.digitsValue?]

private theorem digits?_pair_eq_some_iff {high low : Char} {number : Nat} :
    Text.digits? 16 [high, low] = some number ↔
      ∃ first second, digitValue? 16 high = some first ∧
        digitValue? 16 low = some second ∧ first * 16 + second = number := by
  simp [Text.digits?, Text.digitsValue?, Option.bind_eq_some_iff]

/-- Two characters are read as one byte. -/
private theorem nat?_pair_eq_some_iff {high low : Char} {number : Nat} :
    Text.nat? 16 0x100 [high, low] = some number ↔
      ∃ byte : UInt8, byte.toNat = number ∧ ReadsPair high low byte := by
  constructor
  · intro read
    by_cases sign : high = '+'
    · subst sign
      rw [Text.nat?_signed, digits?_single] at read
      obtain ⟨value, only, bound⟩ := Option.bind_eq_some_iff.mp read
      split at bound <;> cases bound
      rename_i small
      have byte : (UInt8.ofNat number).toNat = number :=
        UInt8.toNat_ofNat_of_lt' small
      exact ⟨UInt8.ofNat number, byte, .signed (byte.symm ▸ only)⟩
    · rw [Text.nat?_unsigned (by simpa using sign)] at read
      obtain ⟨value, both, bound⟩ := Option.bind_eq_some_iff.mp read
      split at bound <;> cases bound
      rename_i small
      obtain ⟨first, second, high, low, rfl⟩ :=
        digits?_pair_eq_some_iff.mp both
      have few := digitValue?_lt low
      have byte := UInt8.toNat_ofNat_of_lt' small
      have upper : (first * 16 + second) / 16 = first := by omega
      have lower : (first * 16 + second) % 16 = second := by omega
      exact ⟨_, byte, .digits (byte.symm ▸ upper.symm ▸ high)
        (byte.symm ▸ lower.symm ▸ low)⟩
  · rintro ⟨byte, rfl, read⟩
    cases read with
    | digits first second =>
        have value := digits?_pair_eq_some_iff.mpr ⟨_, _, first, second, rfl⟩
        rw [Nat.div_add_mod'] at value
        rw [Text.nat?_of_digits? value]
        exact if_pos byte.toNat_lt
    | signed only =>
        rw [Text.nat?_signed, digits?_single, only]
        exact if_pos byte.toNat_lt

/-! ## Texts -/

/-- Every pair of characters in a text is read as one byte. -/
inductive Reads : List Char → Bytes → Prop where
  | nil : Reads [] []
  | cons {high low : Char} {text : List Char} {byte : UInt8} {bytes : Bytes} :
      ReadsPair high low byte → Reads text bytes →
      Reads (high :: low :: text) (byte :: bytes)

theorem decode?_eq_some_iff {text : List Char} {bytes : Bytes} :
    decode? text = some bytes ↔ Reads text bytes := by
  constructor
  · intro decoded
    induction text using decode?.induct generalizing bytes with
    | case1 =>
        cases decoded
        exact .nil
    | case2 c => cases decoded
    | case3 high low rest induction =>
        rw [decode?] at decoded
        obtain ⟨number, first, decoded⟩ := Option.bind_eq_some_iff.mp decoded
        obtain ⟨more, later, decoded⟩ := Option.bind_eq_some_iff.mp decoded
        obtain ⟨byte, rfl, pair⟩ := nat?_pair_eq_some_iff.mp first
        cases decoded
        rw [UInt8.ofNat_toNat]
        exact .cons pair (induction later)
  · intro reads
    induction reads with
    | nil => rfl
    | cons pair _ induction =>
        rw [decode?, nat?_pair_eq_some_iff.mpr ⟨_, rfl, pair⟩, induction]
        simp [UInt8.ofNat_toNat]

theorem Reads.length {text : List Char} {bytes : Bytes}
    (reads : Reads text bytes) : text.length = 2 * bytes.length := by
  induction reads with
  | nil => rfl
  | cons _ _ induction =>
      simp only [List.length_cons, induction]
      omega

/-- The byte at an index is the one that the pair at this index is read as. -/
theorem reads_iff {text : List Char} {bytes : Bytes} :
    Reads text bytes ↔ text.length = 2 * bytes.length ∧
      ∀ index byte, bytes[index]? = some byte → ∃ high low,
        text[2 * index]? = some high ∧ text[2 * index + 1]? = some low ∧
          ReadsPair high low byte := by
  constructor
  · intro reads
    refine ⟨reads.length, ?_⟩
    induction reads with
    | nil => nofun
    | @cons high low text first bytes pair _ induction =>
        rintro (_ | index) byte at_index
        · cases at_index
          exact ⟨high, low, rfl, rfl, pair⟩
        · exact induction index byte at_index
  · rintro ⟨length, pairs⟩
    induction bytes generalizing text with
    | nil =>
        cases List.length_eq_zero_iff.mp length
        exact .nil
    | cons byte bytes induction =>
        obtain ⟨high, low, text, rfl⟩ : ∃ high low rest,
            text = high :: low :: rest := by
          rcases text with _ | ⟨high, _ | ⟨low, rest⟩⟩
          · cases length
          · simp only [List.length_cons, List.length_nil] at length
            omega
          · exact ⟨high, low, rest, rfl⟩
        obtain ⟨_, _, first, second, pair⟩ := pairs 0 byte rfl
        cases first
        cases second
        refine .cons pair (induction ?_ fun index => pairs (index + 1))
        simp only [List.length_cons] at length
        omega

/-! ## Digits only -/

/-- Two digits for every byte, each in either case. -/
inductive Spells : List Char → Bytes → Prop where
  | nil : Spells [] []
  | cons {high low : Char} {digits : List Char} {byte : UInt8}
      {bytes : Bytes} :
      digitValue? 16 high = some (byte.toNat / 16) →
      digitValue? 16 low = some (byte.toNat % 16) → Spells digits bytes →
      Spells (high :: low :: digits) (byte :: bytes)

theorem isAlphanum_of_spells {digits : List Char} {bytes : Bytes}
    (spelled : Spells digits bytes) : ∀ c ∈ digits, c.isAlphanum = true := by
  induction spelled with
  | nil => simp
  | cons high low _ induction =>
      simp only [List.forall_mem_cons]
      exact ⟨isAlphanum_of_digitValue? high, isAlphanum_of_digitValue? low,
        induction⟩

theorem decode?_of_spells {digits : List Char} {bytes : Bytes}
    (spelled : Spells digits bytes) : decode? digits = some bytes := by
  rw [decode?_eq_some_iff]
  induction spelled with
  | nil => exact .nil
  | cons high low _ induction => exact .cons (.digits high low) induction

theorem spells_of_decode? {digits : List Char} {bytes : Bytes}
    (unsigned : '+' ∉ digits) (decoded : decode? digits = some bytes) :
    Spells digits bytes := by
  rw [decode?_eq_some_iff] at decoded
  induction decoded with
  | nil => exact .nil
  | cons pair _ induction =>
      cases pair with
      | digits high low =>
          exact .cons high low (induction fun later =>
            unsigned (List.mem_cons_of_mem _ (List.mem_cons_of_mem _ later)))
      | signed low => exact absurd List.mem_cons_self unsigned

/-- Digits spell the bytes that are written like them in lower case. -/
theorem spells_iff_encode {digits : List Char} {bytes : Bytes} :
    Spells digits bytes ↔ encode bytes = digits.map Char.toLower := by
  constructor
  · intro spelled
    induction spelled with
    | nil => rfl
    | cons high low _ induction =>
        rw [encode, List.flatMap_cons, ← encode, induction, encodeByte,
          ← (digitValue?_eq_some_iff.mp high).2,
          ← (digitValue?_eq_some_iff.mp low).2]
        rfl
  · intro written
    induction bytes generalizing digits with
    | nil =>
        cases List.map_eq_nil_iff.mp written.symm
        exact .nil
    | cons byte bytes induction =>
        rw [encode, List.flatMap_cons, ← encode, encodeByte] at written
        obtain ⟨high, _, rfl, first, written⟩ :=
          List.map_eq_cons_iff.mp written.symm
        obtain ⟨low, digits, rfl, second, written⟩ :=
          List.map_eq_cons_iff.mp written
        have small := byte.toNat_lt
        exact .cons (digitValue?_eq_some_iff.mpr ⟨by omega, first⟩)
          (digitValue?_eq_some_iff.mpr ⟨by omega, second⟩)
          (induction written.symm)

theorem exists_spells_iff {digits : List Char} :
    (∃ bytes, Spells digits bytes) ↔
      digits.length % 2 = 0 ∧ ∀ c ∈ digits, IsDigit c := by
  constructor
  · rintro ⟨bytes, spelled⟩
    induction spelled with
    | nil => exact ⟨rfl, nofun⟩
    | cons high low _ induction =>
        simp only [List.length_cons, List.forall_mem_cons]
        exact ⟨by omega, isDigit_iff.mpr ⟨_, high⟩, isDigit_iff.mpr ⟨_, low⟩,
          induction.2⟩
  · rintro ⟨even, all⟩
    induction digits using decode?.induct with
    | case1 => exact ⟨[], .nil⟩
    | case2 c => cases even
    | case3 high low rest induction =>
        simp only [List.length_cons, List.forall_mem_cons] at even all
        obtain ⟨first, isFirst⟩ := isDigit_iff.mp all.1
        obtain ⟨second, isSecond⟩ := isDigit_iff.mp all.2.1
        obtain ⟨bytes, spelled⟩ := induction (by omega) all.2.2
        have upper := digitValue?_lt isFirst
        have lower := digitValue?_lt isSecond
        have small : first * 16 + second < 0x100 := by omega
        have byte : (UInt8.ofNat (first * 16 + second)).toNat =
            first * 16 + second := UInt8.toNat_ofNat_of_lt' small
        refine ⟨UInt8.ofNat (first * 16 + second) :: bytes, .cons ?_ ?_ spelled⟩
        · rw [byte, isFirst]
          exact congrArg some (by omega)
        · rw [byte, isSecond]
          exact congrArg some (by omega)

theorem length_le_of_decode? {digits : List Char} {bytes : Bytes}
    (decoded : decode? digits = some bytes) :
    bytes.length ≤ digits.length := by
  have length := (decode?_eq_some_iff.mp decoded).length
  omega

/-! ## Written digits -/

theorem encode_eq_flatMap (bytes : Bytes) :
    encode bytes = bytes.flatMap fun byte =>
      [(byte.toNat / 16).digitChar, (byte.toNat % 16).digitChar] := by
  have pair : encodeByte = fun byte =>
      [(byte.toNat / 16).digitChar, (byte.toNat % 16).digitChar] := by
    funext byte
    have small := byte.toNat_lt
    rw [encodeByte, digit_eq_digitChar (by omega),
      digit_eq_digitChar (by omega)]
  rw [encode, pair]

theorem spells_encode (bytes : Bytes) : Spells (encode bytes) bytes := by
  induction bytes with
  | nil => exact .nil
  | cons byte bytes induction =>
      have small := byte.toNat_lt
      exact .cons (digitValue?_digit (by omega)) (digitValue?_digit (by omega))
        induction

@[simp] theorem decode?_encode
    (bytes : Bytes) : decode? (encode bytes) = some bytes :=
  decode?_of_spells (spells_encode bytes)

theorem encode_injective {bytes other : Bytes}
    (same : encode bytes = encode other) : bytes = other := by
  rw [← Option.some.injEq, ← decode?_encode bytes, same, decode?_encode]

end TealTools.Codec.Hex

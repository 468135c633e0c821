import TealTools.Text.Blank
import TealTools.Text.Numeral

/-!
# Numerals

A decimal number is read from digits behind an optional plus sign, and from
nothing else.  What is written for a number is read back, in any radix up to
sixteen, behind any zeros and with letters of either case.
-/

namespace TealTools.Text

/-- Digits behind an optional plus sign, and the number that they spell. -/
inductive Numeral : List Char → Nat → Prop where
  | unsigned {digits : List Char} :
      digits ≠ [] → (∀ c ∈ digits, c.isDigit = true) →
      Numeral digits (Nat.ofDigitChars 10 digits 0)
  | signed {digits : List Char} :
      digits ≠ [] → (∀ c ∈ digits, c.isDigit = true) →
      Numeral ('+' :: digits) (Nat.ofDigitChars 10 digits 0)

/-! ## Digits -/

theorem isDigit_of_mem_toDigits {c : Char} {number : Nat}
    (member : c ∈ Nat.toDigits 10 number) : c.isDigit = true :=
  Nat.isDigit_of_mem_toDigits (by decide) (by decide) member

theorem not_mem_toDigits {c : Char} (other : c.isDigit = false)
    (number : Nat) : c ∉ Nat.toDigits 10 number := by
  intro member
  rw [isDigit_of_mem_toDigits member] at other
  cases other

theorem isBlank_of_isDigit {c : Char} (decimal : c.isDigit = true) :
    isBlank c = false := by
  have low : 48 ≤ c.toNat := (Char.isDigit_iff_toNat.mp decimal).1
  have high : c.toNat ≤ 57 := (Char.isDigit_iff_toNat.mp decimal).2
  simp only [isBlank, Bool.or_eq_false_iff, Bool.and_eq_false_iff,
    decide_eq_false_iff_not]
  omega

theorem isAlphanum_iff {c : Char} : c.isAlphanum = true ↔
    ('A' ≤ c ∧ c ≤ 'Z') ∨ ('a' ≤ c ∧ c ≤ 'z') ∨ ('0' ≤ c ∧ c ≤ '9') := by
  have classes : c.isAlphanum = true ↔
      (c.isUpper = true ∨ c.isLower = true) ∨ c.isDigit = true :=
    Bool.or_eq_true_iff.trans (or_congr_left Bool.or_eq_true_iff)
  have upper : c.isUpper = true ↔ 'A' ≤ c ∧ c ≤ 'Z' := decide_eq_true_iff
  have lower : c.isLower = true ↔ 'a' ≤ c ∧ c ≤ 'z' :=
    Bool.and_eq_true_iff.trans
      (and_congr decide_eq_true_iff decide_eq_true_iff)
  rw [classes, upper, lower, or_assoc, Char.isDigit_iff_toNat]
  rfl

theorem isAlphanum_of_digitValue? {radix value : Nat} {c : Char}
    (found : digitValue? radix c = some value) : c.isAlphanum = true := by
  rw [isAlphanum_iff]
  unfold digitValue? at found
  split at found
  · rename_i digit
    exact .inr (.inr digit)
  · split at found
    · rename_i lower
      exact .inr (.inl lower)
    · split at found
      · rename_i upper
        exact .inl upper
      · simp at found

theorem toNat_lt_of_isAlphanum {c : Char}
    (alphanumeric : c.isAlphanum = true) : c.toNat < 128 := by
  have bounds (high : Char) : c ≤ high → c.toNat ≤ high.toNat := id
  rcases isAlphanum_iff.mp alphanumeric with ⟨-, upper⟩ | ⟨-, lower⟩ |
    ⟨-, digit⟩
  · exact Nat.lt_of_le_of_lt (bounds 'Z' upper) (by decide)
  · exact Nat.lt_of_le_of_lt (bounds 'z' lower) (by decide)
  · exact Nat.lt_of_le_of_lt (bounds '9' digit) (by decide)

/-- Letters and digits stand in words. -/
theorem plain_of_isAlphanum {c : Char} (alphanumeric : c.isAlphanum = true) :
    isBlank c = false ∧ c ≠ '/' ∧ c ≠ '"' := by
  have plain : ∀ code < 128, (Char.ofNat code).isAlphanum = true →
      isBlank (Char.ofNat code) = false ∧ Char.ofNat code ≠ '/' ∧
        Char.ofNat code ≠ '"' := by decide
  have own := plain c.toNat (toNat_lt_of_isAlphanum alphanumeric)
  rw [Char.ofNat_toNat] at own
  exact own alphanumeric

theorem digitValue?_of_isDigit {c : Char} (decimal : c.isDigit = true) :
    digitValue? 10 c = some (c.toNat - '0'.toNat) := by
  have bounds := Char.isDigit_iff_toNat.mp decimal
  have range : '0' ≤ c ∧ c ≤ '9' := bounds
  have small : c.toNat - '0'.toNat < 10 := by
    have nine : '9'.toNat = '0'.toNat + 9 := rfl
    omega
  simp only [digitValue?, if_pos range, if_pos small]

theorem digitsValue?_of_isDigit {digits : List Char}
    (decimal : ∀ c ∈ digits, c.isDigit = true) (value : Nat) :
    digitsValue? 10 value digits =
      some (Nat.ofDigitChars 10 digits value) := by
  induction digits generalizing value with
  | nil => rw [digitsValue?, Nat.ofDigitChars_nil]
  | cons c digits induction =>
      obtain ⟨first, later⟩ := List.forall_mem_cons.mp decimal
      simp only [digitsValue?, digitValue?_of_isDigit first,
        Option.bind_eq_bind, Option.bind_some]
      rw [induction later, Nat.ofDigitChars_cons, Nat.mul_comm value]

private theorem isDigit_of_digitValue? {c : Char} {value : Nat}
    (found : digitValue? 10 c = some value) : c.isDigit = true := by
  by_cases range : '0' ≤ c ∧ c ≤ '9'
  · exact Char.isDigit_iff_toNat.mpr range
  · -- Letters stand for ten and more.
    have large : ¬(if 'a' ≤ c ∧ c ≤ 'z' then c.toNat - 'a'.toNat + 10
        else if 'A' ≤ c ∧ c ≤ 'Z' then c.toNat - 'A'.toNat + 10
        else 10) < 10 := by
      split
      · omega
      · split <;> omega
    simp only [digitValue?, if_neg range, if_neg large] at found
    cases found

theorem forall_mem_of_digitsValue? {holds : Char → Prop} {radix : Nat}
    (each : ∀ {c value}, digitValue? radix c = some value → holds c)
    {digits : List Char} {front value : Nat}
    (read : digitsValue? radix front digits = some value) :
    ∀ c ∈ digits, holds c := by
  induction digits generalizing front with
  | nil => nofun
  | cons c digits induction =>
      obtain ⟨digit, first, later⟩ := Option.bind_eq_some_iff.mp read
      exact List.forall_mem_cons.mpr ⟨each first, induction later⟩

theorem digits?_eq_some_iff {text : List Char} {value : Nat} :
    digits? 10 text = some value ↔
      text ≠ [] ∧ (∀ c ∈ text, c.isDigit = true) ∧
        Nat.ofDigitChars 10 text 0 = value := by
  cases text with
  | nil => simp [digits?]
  | cons c rest =>
      rw [digits?]
      constructor
      · intro read
        have decimal := forall_mem_of_digitsValue? isDigit_of_digitValue? read
        rw [digitsValue?_of_isDigit decimal, Option.some.injEq] at read
        exact ⟨List.cons_ne_nil c rest, decimal, read⟩
      · rintro ⟨-, decimal, rfl⟩
        exact digitsValue?_of_isDigit decimal 0

theorem nat?_signed {radix bound : Nat} {digits : List Char} :
    nat? radix bound ('+' :: digits) =
      (digits? radix digits).bind fun value =>
        if value < bound then some value else none :=
  rfl

theorem nat?_unsigned {radix bound : Nat} {digits : List Char}
    (unsigned : digits.head? ≠ some '+') :
    nat? radix bound digits =
      (digits? radix digits).bind fun value =>
        if value < bound then some value else none := by
  unfold nat?
  split
  · exact absurd rfl unsigned
  · rfl

/-- Exactly the numerals below the bound are read. -/
theorem nat?_eq_some_iff {text : List Char} {bound value : Nat} :
    nat? 10 bound text = some value ↔ Numeral text value ∧ value < bound := by
  have kept : ∀ number, (if number < bound then some number else none) =
      some value ↔ number = value ∧ value < bound := by
    intro number
    split <;> simp <;> omega
  by_cases sign : text.head? = some '+'
  · obtain ⟨digits, rfl⟩ := List.head?_eq_some_iff.mp sign
    rw [nat?_signed, Option.bind_eq_some_iff]
    constructor
    · rintro ⟨number, read, below⟩
      obtain ⟨written, decimal, rfl⟩ := digits?_eq_some_iff.mp read
      obtain ⟨rfl, below⟩ := (kept _).mp below
      exact ⟨.signed written decimal, below⟩
    · rintro ⟨numeral, below⟩
      cases numeral with
      | signed written decimal =>
          exact ⟨_, digits?_eq_some_iff.mpr ⟨written, decimal, rfl⟩,
            (kept _).mpr ⟨rfl, below⟩⟩
      | unsigned written decimal =>
          exact absurd (decimal '+' List.mem_cons_self) (by decide)
  · rw [nat?_unsigned sign, Option.bind_eq_some_iff]
    constructor
    · rintro ⟨number, read, below⟩
      obtain ⟨written, decimal, rfl⟩ := digits?_eq_some_iff.mp read
      obtain ⟨rfl, below⟩ := (kept _).mp below
      exact ⟨.unsigned written decimal, below⟩
    · rintro ⟨numeral, below⟩
      cases numeral with
      | signed written decimal => exact absurd rfl sign
      | unsigned written decimal =>
          exact ⟨_, digits?_eq_some_iff.mpr ⟨written, decimal, rfl⟩,
            (kept _).mpr ⟨rfl, below⟩⟩

/-- What is written for a number is a numeral. -/
theorem numeral_toDigits (number : Nat) :
    Numeral (Nat.toDigits 10 number) number := by
  have written : Nat.toDigits 10 number ≠ [] := Nat.toDigits_ne_nil
  have numeral := Numeral.unsigned written fun _ => isDigit_of_mem_toDigits
  rw [Nat.ofDigitChars_ten_toDigits] at numeral
  exact numeral

theorem nat?_toDigits {number bound : Nat} (below : number < bound) :
    nat? 10 bound (Nat.toDigits 10 number) = some number :=
  nat?_eq_some_iff.mpr ⟨numeral_toDigits number, below⟩

theorem toDigits_injective {number other : Nat}
    (same : Nat.toDigits 10 number = Nat.toDigits 10 other) :
    number = other := by
  rw [← @Nat.ofDigitChars_ten_toDigits number, same,
    Nat.ofDigitChars_ten_toDigits]

/-! ## Radices up to sixteen -/

/-- The digits of a number behind any zeros, with letters in either case. -/
def SpellsIn (radix : Nat) (digits : List Char) (value : Nat) : Prop :=
  ∃ zeros, digits.map Char.toLower =
    List.replicate zeros '0' ++ Nat.toDigits radix value

section

variable {radix : Nat}

private theorem digitValue?_of_lower {c : Char} (lower : 'a' ≤ c ∧ c ≤ 'z') :
    digitValue? radix c =
      if c.toNat - 'a'.toNat + 10 < radix then
        some (c.toNat - 'a'.toNat + 10)
      else none := by
  have noDigit : ¬('0' ≤ c ∧ c ≤ '9') := by
    rintro ⟨-, high⟩
    have low : 97 ≤ c.toNat := lower.1
    have high : c.toNat ≤ 57 := high
    omega
  simp only [digitValue?, if_neg noDigit, if_pos lower]

private theorem digitValue?_of_upper {c : Char} (upper : 'A' ≤ c ∧ c ≤ 'Z') :
    digitValue? radix c =
      if c.toNat - 'A'.toNat + 10 < radix then
        some (c.toNat - 'A'.toNat + 10)
      else none := by
  have noDigit : ¬('0' ≤ c ∧ c ≤ '9') := by
    rintro ⟨-, high⟩
    have low : 65 ≤ c.toNat := upper.1
    have high : c.toNat ≤ 57 := high
    omega
  have noLower : ¬('a' ≤ c ∧ c ≤ 'z') := by
    rintro ⟨low, -⟩
    have low : 97 ≤ c.toNat := low
    have high : c.toNat ≤ 90 := upper.2
    omega
  simp only [digitValue?, if_neg noDigit, if_neg noLower, if_pos upper]

private theorem toNat_toLower {c : Char} (upper : 'A' ≤ c ∧ c ≤ 'Z') :
    c.toLower.toNat = c.toNat + 32 := by
  have range : c.val ≥ 'A'.val ∧ c.val ≤ 'Z'.val := upper
  have high : c.val.toNat ≤ 90 := upper.2
  have shift : ('a'.val - 'A'.val).toNat = 32 := rfl
  have shifted : c.toLower.toNat = (c.val + ('a'.val - 'A'.val)).toNat :=
    congrArg Char.toNat (dif_pos range : c.toLower = _)
  rw [shifted, UInt32.toNat_add, shift]
  exact Nat.mod_eq_of_lt (by omega)

/-- A letter counts the same in either case. -/
@[simp] theorem digitValue?_toLower (c : Char) :
    digitValue? radix c.toLower = digitValue? radix c := by
  by_cases upper : 'A' ≤ c ∧ c ≤ 'Z'
  · have shifted := toNat_toLower upper
    have low : 65 ≤ c.toNat := upper.1
    have high : c.toNat ≤ 90 := upper.2
    have lower : 97 ≤ c.toLower.toNat ∧ c.toLower.toNat ≤ 122 := by omega
    have same : c.toLower.toNat - 97 = c.toNat - 65 := by omega
    rw [digitValue?_of_lower lower, digitValue?_of_upper upper]
    exact congrArg
      (fun place => if place + 10 < radix then some (place + 10) else none)
      same
  · have kept : c.toLower = c := dif_neg upper
    rw [kept]

@[simp] theorem digitsValue?_map_toLower (front : Nat) (digits : List Char) :
    digitsValue? radix front (digits.map Char.toLower) =
      digitsValue? radix front digits := by
  induction digits generalizing front with
  | nil => rfl
  | cons c digits induction =>
      simp only [List.map_cons, digitsValue?, digitValue?_toLower, induction]

theorem digitsValue?_append (value : Nat) (front back : List Char) :
    digitsValue? radix value (front ++ back) =
      (digitsValue? radix value front).bind fun number =>
        digitsValue? radix number back := by
  induction front generalizing value with
  | nil => rfl
  | cons c front induction =>
      simp only [List.cons_append, digitsValue?, induction,
        Option.bind_eq_bind, Option.bind_assoc]

theorem digitValue?_digitChar {digit : Nat} (few : radix ≤ 16)
    (small : digit < radix) :
    digitValue? radix digit.digitChar = some digit := by
  have table : ∀ radix ≤ 16, ∀ digit < radix,
      digitValue? radix digit.digitChar = some digit := by decide
  exact table radix few digit small

private theorem digitsValue?_zeros (positive : 0 < radix) (few : radix ≤ 16)
    (zeros : Nat) (digits : List Char) :
    digitsValue? radix 0 (List.replicate zeros '0' ++ digits) =
      digitsValue? radix 0 digits := by
  have zero : digitValue? radix '0' = some 0 :=
    digitValue?_digitChar few positive
  induction zeros with
  | zero => rfl
  | succ zeros induction =>
      rw [List.replicate_succ, List.cons_append, digitsValue?, zero]
      simpa using induction

theorem digitsValue?_toDigits (proper : 1 < radix) (few : radix ≤ 16)
    (value : Nat) :
    digitsValue? radix 0 (Nat.toDigits radix value) = some value := by
  induction value using Nat.strongRecOn with
  | ind value induction =>
      rw [Nat.toDigits_eq_if proper]
      split
      · rename_i small
        simp [digitsValue?, digitValue?_digitChar few small]
      · rename_i large
        have last := digitValue?_digitChar few
          (Nat.mod_lt value (Nat.zero_lt_of_lt proper))
        have front := induction (value / radix)
          (Nat.div_lt_self (by omega) proper)
        rw [digitsValue?_append, front]
        simp [digitsValue?, last, Nat.div_add_mod']

/-- Digits have the value that they are spelled for. -/
theorem SpellsIn.digitsValue? {digits : List Char} {value : Nat}
    (spells : SpellsIn radix digits value) (proper : 1 < radix)
    (few : radix ≤ 16) : Text.digitsValue? radix 0 digits = some value := by
  obtain ⟨zeros, same⟩ := spells
  rw [← digitsValue?_map_toLower, same,
    digitsValue?_zeros (Nat.zero_lt_of_lt proper) few,
    digitsValue?_toDigits proper few]

theorem digits?_of_digitsValue? {digits : List Char} {value : Nat}
    (nonempty : digits ≠ []) (read : digitsValue? radix 0 digits = some value) :
    digits? radix digits = some value := by
  cases digits with
  | nil => exact absurd rfl nonempty
  | cons c digits => exact read

theorem SpellsIn.digits? {digits : List Char} {value : Nat}
    (spells : SpellsIn radix digits value) (proper : 1 < radix)
    (few : radix ≤ 16) : Text.digits? radix digits = some value := by
  apply digits?_of_digitsValue? _ (spells.digitsValue? proper few)
  rintro rfl
  obtain ⟨zeros, same⟩ := spells
  exact absurd (List.append_eq_nil_iff.mp same.symm).2 Nat.toDigits_ne_nil

theorem head?_of_digits? {digits : List Char} {value : Nat}
    (read : digits? radix digits = some value) :
    ∃ c digit, digits.head? = some c ∧ digitValue? radix c = some digit := by
  cases digits with
  | nil => cases read
  | cons c digits =>
      obtain ⟨digit, first, -⟩ := Option.bind_eq_some_iff.mp read
      exact ⟨c, digit, rfl, first⟩

/-- Digits are read up to the bound. -/
theorem nat?_of_digits? {bound value : Nat} {digits : List Char}
    (read : digits? radix digits = some value) :
    nat? radix bound digits =
      if value < bound then some value else none := by
  obtain ⟨c, digit, head, first⟩ := head?_of_digits? read
  have unsigned : digits.head? ≠ some '+' := by
    rw [head]
    rintro ⟨rfl⟩
    simp [digitValue?] at first
  rw [nat?_unsigned unsigned, read, Option.bind_some]

/-- What is written for a positive number does not begin with a zero. -/
theorem head?_toDigits (proper : 1 < radix) {value : Nat}
    (positive : 0 < value) : (Nat.toDigits radix value).head? ≠ some '0' := by
  induction value using Nat.strongRecOn with
  | ind value induction =>
      rw [Nat.toDigits_eq_if proper]
      split
      · simpa using Nat.ne_of_gt positive
      · rename_i large
        have front := induction (value / radix)
          (Nat.div_lt_self positive proper)
          (Nat.div_pos (Nat.le_of_not_lt large) (Nat.zero_lt_of_lt proper))
        cases digits : Nat.toDigits radix (value / radix) with
        | nil => exact absurd digits Nat.toDigits_ne_nil
        | cons c rest =>
            rw [digits] at front
            exact front

end

end TealTools.Text

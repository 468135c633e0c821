import Mathlib.Data.List.TakeWhile
import TealTools.Json.Parser
import TealTools.Json.Printer

/-!
# Documents are read back from their texts

A document whose strings spell texts and whose numbers are integers is read
back from what is written for it, escapes and signs included.  Every value
ends where its text ends, whatever stands behind it, so that the parts of an
array or an object are read one after the other.
-/

namespace TealTools.Json

/-- Every string spells a text, and every number is an integer. -/
inductive Plain : Json → Prop where
  | null : Plain null
  | bool (value : Bool) : Plain (bool value)
  | int (value : Int) : Plain (int value)
  | str (text : String) : Plain (str text)
  | array {items : List Json} :
      (∀ item ∈ items, Plain item) → Plain (array items)
  | object {members : List (Option String × Json)} :
      (∀ member ∈ members, member.1.isSome) →
      (∀ member ∈ members, Plain member.2) → Plain (object members)

/-- The text does not go on with a number. -/
def Parted (rest : List Char) : Prop :=
  ∀ c ∈ rest.head?, isDigit c = false ∧ c ≠ '.' ∧ c ≠ 'e' ∧ c ≠ 'E'

/-- The value is read back from its text, whatever stands behind it. -/
def Readable (json : Json) : Prop :=
  ∀ fuel rest, 2 * json.write.length ≤ fuel → Parted rest →
    readValue fuel (json.write ++ rest) = some (json, rest)

/-! ## Strings -/

/-- What is written for a character inside a string. -/
inductive SpellsChar : List Char → Char → Prop where
  | plain {c : Char} : c ≠ '"' → c ≠ '\\' → ¬ c.toNat < 0x20 →
      SpellsChar [c] c
  | escape {letter c : Char} : letter ≠ 'u' → escaped? letter = some c →
      SpellsChar ['\\', letter] c
  | code {first second third fourth c : Char} :
      code? [first, second, third, fourth] = some c.toNat →
      SpellsChar ['\\', 'u', first, second, third, fourth] c

private theorem spellsChar_writeChar
    (c : Char) : SpellsChar (writeChar c) c := by
  unfold writeChar
  split_ifs with quote backslash backspace formFeed lineFeed carriage tab
    control
  · subst quote
    exact .escape (by decide) rfl
  · subst backslash
    exact .escape (by decide) rfl
  · exact .escape (by decide) (backspace ▸ rfl)
  · exact .escape (by decide) (formFeed ▸ rfl)
  · exact .escape (by decide) (lineFeed ▸ rfl)
  · exact .escape (by decide) (carriage ▸ rfl)
  · exact .escape (by decide) (tab ▸ rfl)
  · apply SpellsChar.code
    generalize c.toNat = code at control ⊢
    revert code
    decide
  · exact .plain quote backslash control

/-- The code of a character is no half of a surrogate pair. -/
@[simp] theorem ofCode_toNat
    (c : Char) : StringUnit.ofCode c.toNat = .char c := by
  have valid : c.toNat < 0xD800 ∨ 0xDFFF < c.toNat ∧ c.toNat < 0x110000 :=
    c.valid
  rw [StringUnit.ofCode, if_neg (by omega), Char.ofNat_toNat]

theorem readUnits_spelled {span : List Char} {c : Char}
    (spelled : SpellsChar span c) (rest : List Char) :
    readUnits (span ++ rest) =
      (readUnits rest).map fun (units, rest) => (.char c :: units, rest) := by
  cases spelled with
  | plain noQuote noBackslash visible =>
      rw [List.singleton_append, readUnits]
      · rw [if_neg (not_or.mpr ⟨noBackslash, visible⟩)]
        cases readUnits rest <;> rfl
      · exact noQuote
      · intro a b d e more same
        exact absurd same noBackslash
      · intro d more same
        exact absurd same noBackslash
  | escape noCode known =>
      rw [List.cons_append, List.singleton_append, readUnits, known]
      · cases readUnits rest <;> rfl
      · intro a b d e more same
        exact absurd same noCode
  | code value =>
      simp only [List.cons_append, List.nil_append, readUnits, value,
        Option.bind_eq_bind, Option.bind_some, ofCode_toNat]
      cases readUnits rest <;> rfl

theorem readUnits_flatMap (text : List Char) (rest : List Char) :
    readUnits (text.flatMap writeChar ++ '"' :: rest) =
      some (text.map .char, rest) := by
  induction text with
  | nil => simp [readUnits]
  | cons c text induction =>
      rw [List.flatMap_cons, List.append_assoc,
        readUnits_spelled (spellsChar_writeChar c), induction]
      rfl

@[simp] theorem joinUnits_map_char (text : List Char) :
    joinUnits (text.map .char) = some text := by
  induction text with
  | nil => rfl
  | cons c text induction =>
      rw [List.map_cons, joinUnits, induction]
      rfl

theorem readString_append (text : String) (rest : List Char) :
    readString (text.toList.flatMap writeChar ++ '"' :: rest) =
      some (some text, rest) := by
  rw [readString, readUnits_flatMap]
  simp

/-! ## Integers -/

theorem isDigit_of_mem_toDigits {c : Char} {number : Nat}
    (member : c ∈ Nat.toDigits 10 number) : isDigit c := by
  have decimal := Nat.isDigit_of_mem_toDigits (by decide) (by decide) member
  have range : '0' ≤ c ∧ c ≤ '9' := Char.isDigit_iff_toNat.mp decimal
  simp [isDigit, range]

private theorem foldl_digits (digits : List Char) (value : Nat) :
    (digits.map fun c => c.toNat - '0'.toNat).foldl
        (fun value digit => value * 10 + digit) value =
      Nat.ofDigitChars 10 digits value := by
  induction digits generalizing value with
  | nil => rfl
  | cons c digits induction =>
      rw [List.map_cons, List.foldl_cons, induction, Nat.ofDigitChars_cons,
        Nat.mul_comm]

private theorem ofDigits_toDigits (number : Nat) :
    ofDigits ((Nat.toDigits 10 number).map fun c => c.toNat - '0'.toNat) =
      number := by
  rw [ofDigits, foldl_digits, Nat.ofDigitChars_ten_toDigits]

/-- Only the number zero is written with a leading zero. -/
private theorem head_toDigits {number : Nat} (positive : 0 < number) :
    (Nat.toDigits 10 number).head? ≠ some '0' := by
  induction number using Nat.strongRecOn with
  | ind number induction =>
      by_cases small : number < 10
      · have digits : ∀ digit < 10, 0 < digit →
            [Nat.digitChar digit].head? ≠ some '0' := by decide
        rw [Nat.toDigits_of_lt_base small]
        exact digits number small positive
      · have first := induction (number / 10) (by omega) (by omega)
        rw [Nat.toDigits_of_base_le (by decide) (by omega)]
        cases digits : Nat.toDigits 10 (number / 10) with
        | nil => exact absurd digits Nat.toDigits_ne_nil
        | cons c more =>
            rw [digits] at first
            exact first

theorem readDigits_append {digits rest : List Char}
    (decimal : ∀ c ∈ digits, isDigit c) (parted : Parted rest) :
    readDigits (digits ++ rest) =
      (digits.map fun c => c.toNat - '0'.toNat, rest) := by
  have stop : rest.takeWhile isDigit = [] ∧ rest.dropWhile isDigit = rest := by
    cases rest with
    | nil => exact ⟨rfl, rfl⟩
    | cons c rest =>
        have other : ¬ isDigit c := by simp [(parted c rfl).1]
        exact ⟨List.takeWhile_cons_of_neg other,
          List.dropWhile_cons_of_neg other⟩
  rw [readDigits, List.takeWhile_append_of_pos decimal,
    List.dropWhile_append_of_pos decimal, stop.1, stop.2, List.append_nil]

theorem readWhole_toDigits (number : Nat) {rest : List Char}
    (parted : Parted rest) :
    readWhole (Nat.toDigits 10 number ++ rest) = some (number, rest) := by
  have decimal : ∀ c ∈ Nat.toDigits 10 number, isDigit c :=
    fun _ => isDigit_of_mem_toDigits
  have value := ofDigits_toDigits number
  rw [readWhole, readDigits_append decimal parted]
  split
  · rename_i none
    simp [Nat.toDigits_ne_nil] at none
  · rename_i leading
    have digits := (Prod.mk.inj leading).1
    obtain ⟨c, more, text, first, others⟩ := List.map_eq_cons_iff.mp digits
    -- More than one digit is written only for a number that is not zero.
    have positive : 0 < number := by
      apply Nat.pos_of_ne_zero
      rintro rfl
      cases text
      cases others
    have range := decimal c (by simp [text])
    simp only [isDigit, Bool.and_eq_true, decide_eq_true_eq] at range
    have low : 48 ≤ c.toNat := range.1
    have zeroDigit : c = '0' := by
      apply Char.toNat_inj.mp
      simp only [Char.reduceToNat] at first ⊢
      omega
    have head := head_toDigits positive
    rw [text, zeroDigit] at head
    exact absurd rfl head
  · rename_i found _ _ same
    cases same
    rw [value]

theorem readUnsigned_toDigits (negative : Bool) {number : Nat}
    (integer : negative = true → 0 < number) {rest : List Char}
    (parted : Parted rest) :
    readUnsigned negative (Nat.toDigits 10 number ++ rest) =
      some (int (if negative then -(number : Int) else number), rest) := by
  have point : readFraction rest = some (none, rest) := by
    unfold readFraction
    split
    · exact absurd rfl (parted '.' rfl).2.1
    · rfl
  have exponent : readExponent rest = some (none, rest) := by
    cases rest with
    | nil => rfl
    | cons c rest =>
        obtain ⟨_, _, small, large⟩ := parted c rfl
        simp [readExponent, small, large]
  simp only [readUnsigned, readWhole_toDigits number parted, point, exponent,
    Option.bind_eq_bind, Option.bind_some]
  cases negative with
  | false => rfl
  | true =>
      have nonzero : number ≠ 0 := Nat.ne_of_gt (integer rfl)
      simp [nonzero]

theorem readNumber_writeInt (value : Int) {rest : List Char}
    (parted : Parted rest) :
    readNumber (writeInt value ++ rest) = some (int value, rest) := by
  cases value with
  | ofNat number =>
      rw [writeInt, readNumber, readUnsigned_toDigits false nofun parted]
      · rfl
      · intro text same
        cases digits : Nat.toDigits 10 number with
        | nil => exact absurd digits Nat.toDigits_ne_nil
        | cons c more =>
            have decimal : isDigit c := isDigit_of_mem_toDigits
              (digits ▸ List.mem_cons_self)
            rw [digits, List.cons_append] at same
            cases same
            cases decimal
  | negSucc number =>
      rw [writeInt, List.cons_append, readNumber,
        readUnsigned_toDigits true (fun _ => Nat.succ_pos number) parted]
      rfl

/-! ## Values -/

theorem skipBlanks_of_visible {c : Char} (visible : isBlank c = false)
    (rest : List Char) : skipBlanks (c :: rest) = c :: rest :=
  List.dropWhile_cons_of_neg (by simp [visible])

theorem readable_null : Readable null := by
  intro fuel rest enough parted
  cases fuel with
  | zero => simp [write] at enough
  | succ fuel => rfl

theorem readable_bool (value : Bool) : Readable (bool value) := by
  intro fuel rest enough parted
  cases fuel with
  | zero => cases value <;> simp [write] at enough
  | succ fuel => cases value <;> rfl

theorem readable_str (text : String) : Readable (str text) := by
  intro fuel rest enough parted
  cases fuel with
  | zero => simp [write, str, writeString] at enough
  | succ fuel =>
      have quoted : (str text).write ++ rest =
          '"' :: (text.toList.flatMap writeChar ++ '"' :: rest) := by
        simp [str, write, writeString]
      rw [quoted, readValue, skipBlanks_of_visible (by decide)]
      simp [readString_append, str]

private theorem head_writeInt (value : Int) :
    ∃ c tail, writeInt value = c :: tail ∧ (c = '-' ∨ isDigit c) := by
  cases value with
  | ofNat number =>
      cases digits : Nat.toDigits 10 number with
      | nil => exact absurd digits Nat.toDigits_ne_nil
      | cons c more =>
          exact ⟨c, more, digits, .inr (isDigit_of_mem_toDigits
            (digits ▸ List.mem_cons_self))⟩
  | negSucc number => exact ⟨'-', _, rfl, .inl rfl⟩

private theorem ne_of_opens {c other : Char} (opens : c = '-' ∨ isDigit c)
    (different : other ≠ '-' ∧ isDigit other = false) : c ≠ other := by
  rintro rfl
  rcases opens with sign | digit
  · exact different.1 sign
  · rw [different.2] at digit
    cases digit

private theorem visible_of_opens {c : Char} (opens : c = '-' ∨ isDigit c) :
    isBlank c = false := by
  simp only [isBlank, Bool.or_eq_false_iff, decide_eq_false_iff_not]
  exact ⟨⟨⟨ne_of_opens opens (by decide), ne_of_opens opens (by decide)⟩,
    ne_of_opens opens (by decide)⟩, ne_of_opens opens (by decide)⟩

/-- A sign or a digit begins a number. -/
theorem readValue_of_opens {c : Char} (opens : c = '-' ∨ isDigit c)
    (fuel : Nat) (rest : List Char) :
    readValue (fuel + 1) (c :: rest) = readNumber (c :: rest) := by
  rw [readValue, skipBlanks_of_visible (visible_of_opens opens)]
  split
  iterate 6
    · rename_i same
      exact absurd (List.cons.inj same).1 (ne_of_opens opens (by decide))
  · rfl

theorem readable_int (value : Int) : Readable (int value) := by
  intro fuel rest enough parted
  obtain ⟨c, tail, text, opens⟩ := head_writeInt value
  have written : (int value).write = c :: tail := text
  cases fuel with
  | zero => simp [written] at enough
  | succ fuel =>
      rw [written, List.cons_append, readValue_of_opens opens,
        ← List.cons_append, ← text, readNumber_writeInt value parted]

/-! ## Arrays and objects -/

private theorem parted_cons {c : Char}
    (other : isDigit c = false ∧ c ≠ '.' ∧ c ≠ 'e' ∧ c ≠ 'E')
    (rest : List Char) : Parted (c :: rest) := by
  intro d here
  cases here
  exact other

/-- Parts behind one another, with a comma between any two. -/
private theorem commas_cons {part : List Char} {parts : List (List Char)}
    (more : parts ≠ []) :
    commas (part :: parts) = part ++ ',' :: commas parts := by
  cases parts with
  | nil => exact absurd rfl more
  | cons next parts => rfl

private theorem commas_starts (part : List Char) (parts : List (List Char)) :
    ∃ tail, commas (part :: parts) = part ++ tail := by
  by_cases last : parts = []
  · exact ⟨[], by simp [last, commas]⟩
  · exact ⟨_, commas_cons last⟩

/-! ### Arrays -/

private theorem readItems_last
    {fuel : Nat} {text rest : List Char} {item : Json}
    (read : readValue fuel text = some (item, ']' :: rest)) :
    readItems (fuel + 1) text = some ([item], rest) := by
  rw [readItems, read]
  rfl

private theorem readItems_more
    {fuel : Nat} {text more : List Char} {item : Json}
    (read : readValue fuel text = some (item, ',' :: more)) :
    readItems (fuel + 1) text =
      (readItems fuel more).map fun (items, rest) => (item :: items, rest) := by
  have comma : skipBlanks (',' :: more) = ',' :: more := rfl
  simp only [readItems, read, comma, Option.bind_eq_bind, Option.bind_some]
  cases readItems fuel more <;> rfl

private theorem writeItems_ne_nil {items : List Json} (nonempty : items ≠ []) :
    writeItems items ≠ [] := by
  cases items with
  | nil => exact absurd rfl nonempty
  | cons item items => nofun

theorem readItems_commas {items : List Json}
    (readable : ∀ item ∈ items, Readable item) (nonempty : items ≠ [])
    {fuel : Nat} (enough : 2 * (commas (writeItems items)).length < fuel)
    (rest : List Char) :
    readItems fuel (commas (writeItems items) ++ ']' :: rest) =
      some (items, rest) := by
  induction items generalizing fuel with
  | nil => exact absurd rfl nonempty
  | cons item items induction =>
      obtain ⟨own, others⟩ := List.forall_mem_cons.mp readable
      obtain ⟨fuel, rfl⟩ :=
        Nat.exists_eq_succ_of_ne_zero (Nat.ne_zero_of_lt enough)
      by_cases last : items = []
      · subst last
        simp only [writeItems, commas] at enough ⊢
        exact readItems_last (own fuel (']' :: rest) (by omega)
          (parted_cons (by decide) rest))
      · rw [writeItems, commas_cons (writeItems_ne_nil last)] at enough ⊢
        simp only [List.length_append, List.length_cons] at enough
        have read := own fuel (',' :: (commas (writeItems items) ++
          ']' :: rest)) (by omega) (parted_cons (by decide) _)
        rw [List.append_assoc, List.cons_append, readItems_more read,
          induction others last (by omega)]
        rfl

/-- The text of a value begins neither with a blank nor with the end of an
array. -/
private theorem head_write {json : Json} (plain : Plain json) :
    ∃ c tail, json.write = c :: tail ∧ isBlank c = false ∧ c ≠ ']' := by
  cases plain with
  | null => exact ⟨'n', _, rfl, by decide, by decide⟩
  | bool value =>
      cases value with
      | true => exact ⟨'t', _, rfl, by decide, by decide⟩
      | false => exact ⟨'f', _, rfl, by decide, by decide⟩
  | int value =>
      obtain ⟨c, tail, text, opens⟩ := head_writeInt value
      exact ⟨c, tail, text, visible_of_opens opens,
        ne_of_opens opens (by decide)⟩
  | str text => exact ⟨'"', _, rfl, by decide, by decide⟩
  | array _ => exact ⟨'[', _, rfl, by decide, by decide⟩
  | object _ _ => exact ⟨'\x7b', _, rfl, by decide, by decide⟩

theorem readable_array {items : List Json}
    (plain : ∀ item ∈ items, Plain item)
    (readable : ∀ item ∈ items, Readable item) : Readable (array items) := by
  intro fuel rest enough parted
  have text : (array items).write ++ rest =
      '[' :: (commas (writeItems items) ++ ']' :: rest) := by
    simp [write]
  simp only [write, List.length_cons, List.length_append,
    List.length_nil] at enough
  obtain ⟨fuel, rfl⟩ : ∃ smaller, fuel = smaller + 1 :=
    ⟨fuel - 1, by omega⟩
  rw [text, readValue, skipBlanks_of_visible (by decide)]
  cases items with
  | nil => rfl
  | cons item items =>
      have read := readItems_commas readable (List.cons_ne_nil item items)
        (show 2 * _ < fuel by omega) rest
      obtain ⟨c, tail, head, visible, other⟩ :=
        head_write (plain item List.mem_cons_self)
      obtain ⟨more, starts⟩ := commas_starts item.write (writeItems items)
      rw [writeItems, starts, head, List.cons_append, List.cons_append]
        at read ⊢
      -- The first item keeps the array from being taken for an empty one.
      simp only [skipBlanks_of_visible visible]
      split
      · rename_i empty
        exact absurd (List.cons.inj empty).1 other
      · simp only [read, Option.bind_eq_bind, Option.bind_some, Option.pure_def]

/-! ### Objects -/

theorem writeString_append (text : String) (rest : List Char) :
    writeString text ++ rest =
      '"' :: (text.toList.flatMap writeChar ++ '"' :: rest) := by
  simp [writeString]

private theorem readMembers_last
    {fuel : Nat} {text rest : List Char} {value : Json}
    (name : String)
    (read : readValue fuel text = some (value, '\x7d' :: rest)) :
    readMembers (fuel + 1) (writeString name ++ ':' :: text) =
      some ([(some name, value)], rest) := by
  have colon : skipBlanks (':' :: text) = ':' :: text := rfl
  have brace : skipBlanks ('\x7d' :: rest) = '\x7d' :: rest := rfl
  rw [writeString_append, readMembers, skipBlanks_of_visible (by decide)]
  simp only [readString_append, colon, read, brace, Option.bind_eq_bind,
    Option.bind_some, Option.pure_def]

private theorem readMembers_more
    {fuel : Nat} {text more : List Char} {value : Json}
    (name : String)
    (read : readValue fuel text = some (value, ',' :: more)) :
    readMembers (fuel + 1) (writeString name ++ ':' :: text) =
      (readMembers fuel more).map fun (members, rest) =>
        ((some name, value) :: members, rest) := by
  have colon : skipBlanks (':' :: text) = ':' :: text := rfl
  have comma : skipBlanks (',' :: more) = ',' :: more := rfl
  rw [writeString_append, readMembers, skipBlanks_of_visible (by decide)]
  simp only [readString_append, colon, read, comma, Option.bind_eq_bind,
    Option.bind_some]
  cases readMembers fuel more <;> rfl

private theorem writeMembers_ne_nil {members : List (Option String × Json)}
    (nonempty : members ≠ []) : writeMembers members ≠ [] := by
  cases members with
  | nil => exact absurd rfl nonempty
  | cons member members => nofun

theorem readMembers_commas {members : List (Option String × Json)}
    (named : ∀ member ∈ members, member.1.isSome)
    (readable : ∀ member ∈ members, Readable member.2)
    (nonempty : members ≠ []) {fuel : Nat}
    (enough : 2 * (commas (writeMembers members)).length < fuel)
    (rest : List Char) :
    readMembers fuel (commas (writeMembers members) ++ '\x7d' :: rest) =
      some (members, rest) := by
  induction members generalizing fuel with
  | nil => exact absurd rfl nonempty
  | cons member members induction =>
      obtain ⟨ownName, otherNames⟩ := List.forall_mem_cons.mp named
      obtain ⟨own, others⟩ := List.forall_mem_cons.mp readable
      obtain ⟨name, value⟩ := member
      obtain ⟨name, rfl⟩ := Option.isSome_iff_exists.mp ownName
      replace own : Readable value := own
      obtain ⟨fuel, rfl⟩ :=
        Nat.exists_eq_succ_of_ne_zero (Nat.ne_zero_of_lt enough)
      by_cases last : members = []
      · subst last
        simp only [writeMembers, commas, Option.getD_some, List.append_assoc,
          List.cons_append, List.length_append, List.length_cons] at enough ⊢
        exact readMembers_last name (own fuel ('\x7d' :: rest) (by omega)
          (parted_cons (by decide) rest))
      · rw [writeMembers, commas_cons (writeMembers_ne_nil last)] at enough ⊢
        simp only [Option.getD_some, List.length_append, List.length_cons]
          at enough
        have read := own fuel (',' :: (commas (writeMembers members) ++
          '\x7d' :: rest)) (by omega) (parted_cons (by decide) _)
        simp only [Option.getD_some, List.append_assoc, List.cons_append]
        rw [readMembers_more name read,
          induction otherNames others last (by omega)]
        rfl

theorem readable_object {members : List (Option String × Json)}
    (named : ∀ member ∈ members, member.1.isSome)
    (readable : ∀ member ∈ members, Readable member.2) :
    Readable (object members) := by
  intro fuel rest enough parted
  have text : (object members).write ++ rest =
      '\x7b' :: (commas (writeMembers members) ++ '\x7d' :: rest) := by
    simp [write]
  simp only [write, List.length_cons, List.length_append,
    List.length_nil] at enough
  obtain ⟨fuel, rfl⟩ : ∃ smaller, fuel = smaller + 1 :=
    ⟨fuel - 1, by omega⟩
  rw [text, readValue, skipBlanks_of_visible (by decide)]
  cases members with
  | nil => rfl
  | cons member members =>
      have read := readMembers_commas named readable
        (List.cons_ne_nil member members) (show 2 * _ < fuel by omega) rest
      obtain ⟨more, starts⟩ := commas_starts
        (writeString (member.1.getD "") ++ ':' :: member.2.write)
        (writeMembers members)
      rw [writeMembers, starts, List.append_assoc, List.append_assoc,
        writeString_append] at read ⊢
      -- A name opens with a quote, which ends no object.
      simp only [skipBlanks_of_visible (show isBlank '"' = false by decide)]
      simp only [read, Option.bind_eq_bind, Option.bind_some, Option.pure_def]
      rfl

theorem readable_of_plain {json : Json} (plain : Plain json) :
    Readable json := by
  induction plain with
  | null => exact readable_null
  | bool value => exact readable_bool value
  | int value => exact readable_int value
  | str text => exact readable_str text
  | array plain induction => exact readable_array plain induction
  | object named _ induction => exact readable_object named induction

/-- A plain document is what its text holds. -/
theorem parse?_write {json : Json} (plain : Plain json) :
    parse? json.write = some json := by
  have read := readable_of_plain plain (2 * json.write.length + 1) []
    (Nat.le_succ _) nofun
  rw [List.append_nil] at read
  rw [parse?, parseFront?, read]
  rfl

end TealTools.Json

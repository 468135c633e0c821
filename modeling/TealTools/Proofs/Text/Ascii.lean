import TealTools.Text.Composition
import TealTools.Text.Direction
import TealTools.Text.Split
import TealTools.Text.Utf8

/-!
# Text in ASCII

A character of ASCII is written as one byte.  It is no mark, takes no part in
composition and never makes a text run from the right.
-/

namespace TealTools.Text

/-! ## Characters of one byte -/

@[simp] theorem utf8_cons (c : Char) (text : List Char) :
    utf8 (c :: text) = String.utf8EncodeChar c ++ utf8 text :=
  List.flatMap_cons

theorem utf8EncodeChar_of_ascii {c : Char} (ascii : c.toNat < 128) :
    String.utf8EncodeChar c = [UInt8.ofNat c.toNat] := by
  have narrow : c.val.toNat ≤ 127 := Nat.lt_succ_iff.mp ascii
  simp only [String.utf8EncodeChar, if_pos narrow]
  rfl

theorem length_utf8_of_ascii {text : List Char}
    (ascii : ∀ c ∈ text, c.toNat < 128) : (utf8 text).length = text.length := by
  induction text with
  | nil => rfl
  | cons c text induction =>
      obtain ⟨first, later⟩ := List.forall_mem_cons.mp ascii
      rw [utf8_cons, utf8EncodeChar_of_ascii first, List.singleton_append,
        List.length_cons, induction later, List.length_cons]

theorem toNat_ofNat_of_ascii {c : Char} (ascii : c.toNat < 128) :
    (UInt8.ofNat c.toNat).toNat = c.toNat :=
  UInt8.toNat_ofNat_of_lt' (Nat.lt_trans ascii (by decide))

theorem readChar_of_ascii {c : Char} (ascii : c.toNat < 128)
    (rest : Bytes) : readChar (UInt8.ofNat c.toNat) rest = (some c, 0) := by
  have small : UInt8.ofNat c.toNat ≤ 0x7F := by
    rw [UInt8.le_iff_toNat_le, toNat_ofNat_of_ascii ascii]
    exact Nat.lt_succ_iff.mp ascii
  unfold readChar
  rw [if_pos small, toNat_ofNat_of_ascii ascii, Char.ofNat_toNat]

private theorem readChars_cons_of_ascii {c : Char} (ascii : c.toNat < 128)
    (rest : Bytes) :
    readChars (UInt8.ofNat c.toNat :: rest) = some c :: readChars rest := by
  rw [readChars, readChar_of_ascii ascii, List.drop_zero]

theorem ofUtf8?_cons_of_ascii {c : Char} (ascii : c.toNat < 128)
    (rest : Bytes) :
    ofUtf8? (UInt8.ofNat c.toNat :: rest) = (ofUtf8? rest).map (c :: ·) := by
  rw [ofUtf8?, readChars_cons_of_ascii ascii, ofUtf8?, List.mapM_cons]
  cases (readChars rest).mapM id <;> rfl

theorem ofUtf8?_utf8_of_ascii {text : List Char}
    (ascii : ∀ c ∈ text, c.toNat < 128) :
    ofUtf8? (utf8 text) = some text := by
  induction text with
  | nil =>
      rw [utf8, List.flatMap_nil, ofUtf8?, readChars]
      rfl
  | cons c text induction =>
      obtain ⟨first, later⟩ := List.forall_mem_cons.mp ascii
      rw [utf8_cons, utf8EncodeChar_of_ascii first, List.singleton_append,
        ofUtf8?_cons_of_ascii first, induction later, Option.map_some]

/-! ## Classes of marks and directions -/

variable {c : Char}

private theorem inRanges_of_ascii {ranges : List (Nat × Nat)}
    (beyond : ∀ range ∈ ranges, 128 ≤ range.1) (ascii : c.toNat < 128) :
    inRanges ranges c.toNat = false := by
  rw [inRanges, List.any_eq_false]
  intro range member
  have above := Nat.lt_of_lt_of_le ascii (beyond range member)
  simp only [Nat.not_le_of_gt above, decide_false, Bool.false_and,
    Bool.false_eq_true, not_false_eq_true]

private theorem markClasses_beyond :
    ∀ row ∈ markClasses, ∀ range ∈ row.2, 128 ≤ range.1 := by
  decide +kernel

theorem markClass_of_ascii (ascii : c.toNat < 128) : markClass c = 0 := by
  have unlisted :
      markClasses.find? (fun row => inRanges row.2 c.toNat) = none := by
    rw [List.find?_eq_none]
    intro row member
    rw [inRanges_of_ascii (markClasses_beyond row member) ascii]
    exact Bool.false_ne_true
  rw [markClass, unlisted]
  rfl

private theorem directions_beyond :
    ∀ row ∈ directions, row.1.isMixing → ∀ range ∈ row.2, 128 ≤ range.1 := by
  decide +kernel

theorem isMixing_direction_of_ascii (ascii : c.toNat < 128) :
    (direction c).isMixing = false := by
  cases found : directions.find? fun row => inRanges row.2 c.toNat with
  | none =>
      simp only [direction, found]
      split <;> rfl
  | some row =>
      simp only [direction, found]
      have listed := List.find?_some found
      cases mixing : row.1.isMixing with
      | false => rfl
      | true =>
          have beyond :=
            directions_beyond row (List.mem_of_find?_eq_some found) mixing
          rw [inRanges_of_ascii beyond ascii] at listed
          cases listed

/-! ## Composition -/

/-- Neither the mark of a row nor what it makes of a character is ASCII. -/
def IsBeyondAscii (row : Nat × String) : Prop :=
  128 ≤ row.1 ∧ ∀ pair ∈ pairs row.2.toList, 128 ≤ pair.2.toNat

private theorem isBeyondAscii_ofList {code : Nat} {characters : List Char}
    (beyond : 128 ≤ code ∧ ∀ pair ∈ pairs characters, 128 ≤ pair.2.toNat) :
    IsBeyondAscii (code, String.ofList characters) := by
  rw [IsBeyondAscii, String.toList_ofList]
  exact beyond

set_option maxRecDepth 4000 in
private theorem composites_beyond : ∀ row ∈ composites, IsBeyondAscii row := by
  unfold composites
  -- Deciding the whole table at once would decode its texts byte by byte.
  repeat
    refine List.forall_mem_cons.mpr
      ⟨isBeyondAscii_ofList (by decide +kernel), ?_⟩
  exact List.forall_mem_nil _

theorem splitPair?_of_ascii (ascii : c.toNat < 128) :
    splitPair? c = none := by
  unfold splitPair?
  rw [List.findSome?_eq_none_iff]
  intro row member
  rw [Option.map_eq_none_iff, List.find?_eq_none]
  intro pair paired same
  have beyond := (composites_beyond row member).2 pair paired
  rw [of_decide_eq_true same] at beyond
  exact Nat.not_lt_of_ge beyond ascii

theorem compositesOf_of_ascii (ascii : c.toNat < 128) :
    compositesOf c = [] := by
  rw [compositesOf, List.flatMap_eq_nil_iff]
  intro row member
  have beyond := (composites_beyond row member).1
  exact if_neg (Nat.ne_of_gt (Nat.lt_of_lt_of_le ascii beyond))

theorem isBlock_of_ascii {code : Nat} (ascii : code < 128) :
    isBlock code = false := by
  have below : ¬blockBase ≤ code :=
    Nat.not_le_of_gt (Nat.lt_of_lt_of_le ascii (by decide))
  rw [isBlock, decide_eq_false below, Bool.false_and]

theorem decompose_of_ascii (ascii : c.toNat < 128) (fuel : Nat) :
    decompose fuel c = [c] := by
  cases fuel with
  | zero => rw [decompose]
  | succ fuel =>
      simp only [decompose, isBlock_of_ascii ascii, splitPair?_of_ascii ascii,
        Bool.false_eq_true, if_false]

theorem joinPair?_of_ascii {first : Char} (early : first.toNat < 128)
    (ascii : c.toNat < 128) : joinPair? first c = none := by
  have below : ¬leadBase ≤ first.toNat :=
    Nat.not_le_of_gt (Nat.lt_of_lt_of_le early (by decide))
  simp only [joinPair?, compositesOf_of_ascii ascii, List.lookup_nil,
    joinBlock?, below, isBlock_of_ascii early, false_and, Bool.false_eq_true,
    if_false]

variable {text : List Char}

private theorem sortMarks_of_ascii (ascii : ∀ c ∈ text, c.toNat < 128) :
    sortMarks [] text = text := by
  induction text with
  | nil => rfl
  | cons c text induction =>
      obtain ⟨first, later⟩ := List.forall_mem_cons.mp ascii
      rw [sortMarks, if_pos (markClass_of_ascii first), List.nil_append,
        induction later]

private theorem joinMarks_of_ascii {letter : Char} (early : letter.toNat < 128)
    (ascii : ∀ c ∈ text, c.toNat < 128) :
    joinMarks letter [] text = letter :: text := by
  induction text generalizing letter with
  | nil => rfl
  | cons c text induction =>
      obtain ⟨first, later⟩ := List.forall_mem_cons.mp ascii
      simp only [joinMarks, List.getLast?_nil, if_true,
        joinPair?_of_ascii early first, markClass_of_ascii first,
        induction first later]
      rfl

private theorem flatMap_decompose_of_ascii (ascii : ∀ c ∈ text, c.toNat < 128)
    (fuel : Nat) : text.flatMap (decompose fuel) = text := by
  induction text with
  | nil => rfl
  | cons c text induction =>
      obtain ⟨first, later⟩ := List.forall_mem_cons.mp ascii
      rw [List.flatMap_cons, decompose_of_ascii first, induction later,
        List.singleton_append]

theorem compose_of_ascii (ascii : ∀ c ∈ text, c.toNat < 128) :
    compose text = text := by
  rw [compose, flatMap_decompose_of_ascii ascii, sortMarks_of_ascii ascii]
  cases text with
  | nil => rfl
  | cons c text =>
      obtain ⟨first, later⟩ := List.forall_mem_cons.mp ascii
      exact joinMarks_of_ascii first later

/-! ## Splitting -/

variable {α : Type} [DecidableEq α] {separator : α}

theorem split_eq_splitOn (text : List α) :
    split separator text = text.splitOn separator := by
  induction text with
  | nil => rfl
  | cons item text induction =>
      rw [split, List.splitOn, List.splitOnP_cons_eq_if_modifyHead]
      simp only [beq_iff_eq]
      by_cases same : item = separator
      · rw [if_pos same, if_pos same, induction, List.splitOn]
      · rw [if_neg same, if_neg same, induction, List.splitOn]
        cases pieces : text.splitOnP (· == separator) with
        | nil => exact absurd pieces (List.splitOnP_ne_nil _ text)
        | cons piece more => rfl

theorem subset_of_mem_split {text piece : List α}
    (member : piece ∈ split separator text) : piece ⊆ text := by
  induction text generalizing piece with
  | nil =>
      rw [split, List.mem_singleton] at member
      rw [member]
      exact List.Subset.refl []
  | cons item text induction =>
      rw [split] at member
      split at member
      · rcases List.mem_cons.mp member with rfl | later
        · exact List.nil_subset _
        · exact List.subset_cons_of_subset item (induction later)
      · split at member
        · rw [List.mem_singleton] at member
          rw [member]
          exact List.cons_subset_cons item (List.nil_subset text)
        · next first more pieces =>
          rcases List.mem_cons.mp member with rfl | later
          · have front : first ⊆ text :=
              induction (pieces ▸ List.mem_cons_self)
            exact List.cons_subset_cons item front
          · have behind : piece ⊆ text :=
              induction (pieces ▸ List.mem_cons_of_mem first later)
            exact List.subset_cons_of_subset item behind

end TealTools.Text

import TealTools.Proofs.Text.Numeral
import TealTools.Proofs.Token.Spans

/-!
# Lines written token by token

Tokens that are written with one space between them are read back, each at the
column where it begins.  A literal may hold anything that its escapes can
spell.  A word holds no blank, no two slashes in a row, and no quote in front.
-/

namespace TealTools.Token

open Text

/-- There is no blank in the text, and no comment begins in it. -/
structure Unbroken (text : List Char) : Prop where
  visible : ∀ c ∈ text, isBlank c = false
  uncommented : ¬ ['/', '/'] <:+: text

/-- Characters that are read as one word. -/
structure IsWord (text : List Char) : Prop extends Unbroken text where
  nonempty : text ≠ []
  unquoted : text.head? ≠ some '"'

/-- A token as it is written, wherever it stands. -/
structure Piece where
  kind : TokenKind
  text : List Char

inductive Piece.Legible : Piece → Prop where
  | word {text : String} :
      IsWord text.toList → Legible ⟨.word text, text.toList⟩
  | literal {body : List Char} {bytes : Bytes} :
      SpellsLiteral body bytes →
      Legible ⟨.literal bytes, '"' :: (body ++ ['"'])⟩

/-- The pieces with one space between them. -/
def written (pieces : List Piece) : List Char :=
  [' '].intercalate (pieces.map Piece.text)

/-- The tokens of pieces that are written from a column on. -/
def tokensFrom (column : Nat) : List Piece → List Token
  | [] => []
  | piece :: pieces =>
    ⟨piece.kind, column⟩ ::
      tokensFrom (columnAfter column piece.text + 1) pieces

@[simp] theorem map_kind_tokensFrom (column : Nat) (pieces : List Piece) :
    (tokensFrom column pieces).map Token.kind = pieces.map Piece.kind := by
  induction pieces generalizing column with
  | nil => rfl
  | cons piece pieces induction =>
      simp only [tokensFrom, List.map_cons, induction]

theorem written_cons {piece : Piece} {pieces : List Piece}
    (more : pieces ≠ []) :
    written (piece :: pieces) = piece.text ++ ' ' :: written pieces := by
  have behind : pieces.map Piece.text ≠ [] := by simpa using more
  rw [written, List.map_cons, List.intercalate_cons_of_ne_nil behind, written]
  simp

theorem written_append {first second : List Piece} (nonempty : first ≠ [])
    (more : second ≠ []) :
    written (first ++ second) = written first ++ ' ' :: written second := by
  induction first with
  | nil => exact absurd rfl nonempty
  | cons piece first induction =>
      rw [List.cons_append,
        written_cons (List.append_ne_nil_of_right_ne_nil first more)]
      cases first with
      | nil => simp [written]
      | cons next first =>
          rw [induction (List.cons_ne_nil next first),
            written_cons (List.cons_ne_nil next first)]
          simp

/-! ## Words -/

theorem not_infix_append_cons {front back : List Char} {c : Char}
    (noSlash : c ≠ '/') (early : ¬ ['/', '/'] <:+: front)
    (late : ¬ ['/', '/'] <:+: back) :
    ¬ ['/', '/'] <:+: front ++ c :: back := by
  induction front with
  | nil =>
      rw [List.nil_append, List.infix_cons_iff, List.cons_prefix_cons]
      exact not_or.mpr ⟨fun begins => noSlash begins.1.symm, late⟩
  | cons d front induction =>
      rw [List.infix_cons_iff, not_or] at early
      rw [List.cons_append, List.infix_cons_iff, List.cons_prefix_cons]
      refine not_or.mpr ⟨?_, induction early.2⟩
      rintro ⟨rfl, second⟩
      cases front with
      | nil =>
          rw [List.nil_append, List.cons_prefix_cons] at second
          exact noSlash second.1.symm
      | cons e front =>
          rw [List.cons_append, List.cons_prefix_cons] at second
          apply early.1
          simp [← second.1]

theorem unbroken_of_plain {text : List Char}
    (plain : ∀ c ∈ text, isBlank c = false ∧ c ≠ '/') : Unbroken text where
  visible := fun c member => (plain c member).1
  uncommented := fun slashes =>
    (plain '/' (slashes.subset List.mem_cons_self)).2 rfl

/-- Letters and digits are read as one word. -/
theorem isWord_of_isAlphanum {text : List Char} (nonempty : text ≠ [])
    (alphanumeric : ∀ c ∈ text, c.isAlphanum = true) : IsWord text where
  toUnbroken := unbroken_of_plain fun c member =>
    have plain := plain_of_isAlphanum (alphanumeric c member)
    ⟨plain.1, plain.2.1⟩
  nonempty := nonempty
  unquoted := fun quoted =>
    (plain_of_isAlphanum (alphanumeric '"' (List.mem_of_head? quoted))).2.2 rfl

/-- A visible character that is no slash joins two texts. -/
theorem Unbroken.append_cons {front back : List Char} {c : Char}
    (early : Unbroken front) (late : Unbroken back)
    (visible : isBlank c = false) (noSlash : c ≠ '/') :
    Unbroken (front ++ c :: back) where
  visible := by
    intro d member
    rcases List.mem_append.mp member with inFront | inBack
    · exact early.visible d inFront
    · rcases List.mem_cons.mp inBack with rfl | inBack
      · exact visible
      · exact late.visible d inBack
  uncommented := not_infix_append_cons noSlash early.uncommented
    late.uncommented

/-! ## One piece -/

/-- Nothing, a blank or a comment follows. -/
def Stops (rest : List Char) : Prop :=
  ∀ c tail, rest = c :: tail → isBlank c ∨ beginsComment rest

/-- Reading a word ends where a blank or a comment follows and no comment
begins earlier. -/
private theorem splitWord_eq {text rest : List Char}
    (visible : ∀ c ∈ text, isBlank c = false)
    (uncommented : ∀ back, back <:+ text → back ≠ [] →
      beginsComment (back ++ rest) = false)
    (stops : Stops rest) : splitWord (text ++ rest) = (text, rest) := by
  induction text with
  | nil =>
      cases rest with
      | nil => rfl
      | cons c tail =>
          rw [List.nil_append, splitWord, if_pos]
          simpa using stops c tail rfl
  | cons c text induction =>
      have here := uncommented (c :: text) List.suffix_rfl (by simp)
      have behind := induction
        (fun d member => visible d (List.mem_cons_of_mem c member))
        (fun back suffix => uncommented back
          (suffix.trans (List.suffix_cons c text)))
      rw [List.cons_append] at here ⊢
      rw [splitWord, if_neg, behind]
      simp [here, visible c List.mem_cons_self]

theorem beginsComment_iff {text : List Char} :
    beginsComment text ↔ ['/', '/'] <+: text := by
  constructor
  · intro begins
    unfold beginsComment at begins
    split at begins
    · rename_i rest
      exact ⟨rest, rfl⟩
    · cases begins
  · rintro ⟨rest, rfl⟩
    rfl

theorem IsWord.splitWord {text rest : List Char} (word : IsWord text)
    (parted : ∀ c ∈ rest.head?, isSeparator c) :
    Token.splitWord (text ++ rest) = (text, rest) := by
  apply splitWord_eq word.visible
  · intro back suffix nonempty
    rw [← Bool.not_eq_true, beginsComment_iff]
    intro begins
    match back with
    | [] => exact nonempty rfl
    | [c] =>
        -- The second slash would have to stand behind the word.
        cases rest with
        | nil => simp at begins
        | cons d rest =>
            simp only [List.cons_append, List.nil_append,
              List.cons_prefix_cons] at begins
            have separator := parted d rfl
            rw [← begins.2.1] at separator
            cases separator
    | c :: d :: back =>
        simp only [List.cons_append, List.cons_prefix_cons,
          List.nil_prefix, and_true] at begins
        obtain ⟨rfl, rfl⟩ := begins
        exact word.uncommented
          ((List.prefix_append ['/', '/'] back).isInfix.trans suffix.isInfix)
  · rintro c tail rfl
    exact .inl (isBlank_of_isSeparator (parted c rfl))

private theorem step_space (column : Nat) (rest : List Char) :
    step column (' ' :: rest) = step (column + 1) rest := by
  simp [step, isSeparator, columnAfter]

theorem scanFrom_eq (column : Nat) (input : List Char) :
    scanFrom column input =
      match step column input with
      | .done => .ok []
      | .stuck fault => .error fault
      | .found token next rest => (scanFrom next rest).map (token :: ·) := by
  rw [scanFrom]
  split
  · rename_i found
    rw [found]
  · rename_i found
    rw [found]
  · rename_i token next rest found
    simp only [found]
    cases scanFrom next rest <;> rfl

theorem step_of_visible {column : Nat} {c : Char} {rest : List Char}
    (visible : isBlank c = false) :
    step column (c :: rest) = stepAt column (c :: rest) := by
  have noSeparator : ¬ isSeparator c := fun separator =>
    absurd (isBlank_of_isSeparator separator) (by simp [visible])
  rw [step, List.takeWhile_cons_of_neg noSeparator,
    List.dropWhile_cons_of_neg noSeparator]
  rfl

private theorem step_of_splitWord {input word rest : List Char}
    (whole : splitWord input = (word, rest)) (nonempty : word ≠ [])
    (unquoted : word.head? ≠ some '"') (column : Nat) :
    step column input =
      .found ⟨.word (String.ofList word), column⟩ (columnAfter column word)
        rest := by
  cases input with
  | nil =>
      cases whole
      exact absurd rfl nonempty
  | cons c input =>
      have split := whole
      rw [splitWord] at split
      split at split
      · cases split
        exact absurd rfl nonempty
      · -- The word begins with a visible character, and no comment does.
        rename_i goesOn
        rw [Bool.or_eq_true, not_or, Bool.not_eq_true,
          Bool.not_eq_true] at goesOn
        cases split
        have noQuote : c ≠ '"' := by simpa using unquoted
        rw [step_of_visible goesOn.1, stepAt, goesOn.2,
          if_neg Bool.false_ne_true, if_neg noQuote, whole]
        rfl

theorem IsWord.step {text : String} (word : IsWord text.toList)
    (column : Nat) {rest : List Char}
    (parted : ∀ c ∈ rest.head?, isSeparator c) :
    Token.step column (text.toList ++ rest) =
      .found ⟨.word text, column⟩ (columnAfter column text.toList) rest := by
  rw [step_of_splitWord (word.splitWord parted) word.nonempty word.unquoted,
    String.ofList_toList]

theorem SpellsLiteral.step {body : List Char} {bytes : Bytes}
    (spelled : SpellsLiteral body bytes) (column : Nat) (rest : List Char) :
    Token.step column ('"' :: (body ++ ['"']) ++ rest) =
      .found ⟨.literal bytes, column⟩
        (columnAfter column ('"' :: (body ++ ['"']))) rest := by
  have visible : isBlank '"' = false := by decide
  rw [List.cons_append, List.append_assoc, List.singleton_append,
    step_of_visible visible]
  simp only [stepAt, splitLiteral_of_spells spelled]
  simp [beginsComment]

theorem Piece.Legible.step {piece : Piece} (legible : piece.Legible)
    (column : Nat) {rest : List Char}
    (parted : ∀ c ∈ rest.head?, isSeparator c) :
    Token.step column (piece.text ++ rest) =
      .found ⟨piece.kind, column⟩ (columnAfter column piece.text) rest := by
  cases legible with
  | word word => exact word.step column parted
  | literal spelled => exact spelled.step column rest

/-! ## Lines -/

@[simp] theorem scanFrom_nil (column : Nat) : scanFrom column [] = .ok [] := by
  rw [scanFrom]
  rfl

@[simp] theorem scanFrom_space (column : Nat) (rest : List Char) :
    scanFrom column (' ' :: rest) = scanFrom (column + 1) rest := by
  rw [scanFrom_eq, step_space, ← scanFrom_eq]

theorem Piece.Legible.scanFrom {piece : Piece} (legible : piece.Legible)
    (column : Nat) (rest : List Char)
    (parted : ∀ c ∈ rest.head?, isSeparator c) :
    Token.scanFrom column (piece.text ++ rest) =
      (Token.scanFrom (columnAfter column piece.text) rest).map
        (⟨piece.kind, column⟩ :: ·) := by
  rw [scanFrom_eq, legible.step column parted]

theorem scanFrom_written {pieces : List Piece}
    (legible : ∀ piece ∈ pieces, piece.Legible) (column : Nat) :
    scanFrom column (written pieces) = .ok (tokensFrom column pieces) := by
  induction pieces generalizing column with
  | nil => exact scanFrom_nil column
  | cons piece pieces induction =>
      obtain ⟨own, others⟩ := List.forall_mem_cons.mp legible
      cases pieces with
      | nil =>
          have last := own.scanFrom column [] (by simp)
          rw [List.append_nil, scanFrom_nil] at last
          rw [written, List.map_singleton, List.intercalate_singleton, last]
          rfl
      | cons next pieces =>
          rw [written_cons (List.cons_ne_nil next pieces),
            own.scanFrom column _ (by simp [isSeparator]), scanFrom_space,
            induction others]
          rfl

theorem scan_written {pieces : List Piece}
    (legible : ∀ piece ∈ pieces, piece.Legible) :
    scan (written pieces) = .ok (tokensFrom 1 pieces) :=
  scanFrom_written legible 1

/-! ## Comments -/

/-- The part of a text in front of its first comment. -/
theorem exists_first_comment {text : List Char}
    (commented : ['/', '/'] <:+: text) :
    ∃ front back, text = front ++ '/' :: '/' :: back ∧
      ¬ ['/', '/'] <:+: front ++ ['/'] := by
  induction text with
  | nil => simp at commented
  | cons c text induction =>
      by_cases begins : ['/', '/'] <+: c :: text
      · obtain ⟨back, same⟩ := begins
        exact ⟨[], back, same.symm, by decide⟩
      · obtain ⟨front, back, rfl, first⟩ :=
          induction ((List.infix_cons_iff.mp commented).resolve_left begins)
        refine ⟨c :: front, back, rfl, ?_⟩
        rw [List.cons_append, List.infix_cons_iff]
        refine not_or.mpr ⟨fun earlier => begins ?_, first⟩
        have longer : c :: (front ++ ['/']) <+:
            c :: (front ++ '/' :: '/' :: back) := by simp
        exact earlier.trans longer

/-- A word in front of a comment is read up to the comment. -/
private theorem splitWord_comment {word : List Char}
    (visible : ∀ c ∈ word, isBlank c = false)
    (first : ¬ ['/', '/'] <:+: word ++ ['/']) (tail : List Char) :
    splitWord (word ++ '/' :: '/' :: tail) = (word, '/' :: '/' :: tail) := by
  apply splitWord_eq visible
  · intro back suffix nonempty
    rw [← Bool.not_eq_true, beginsComment_iff]
    intro begins
    apply first
    have inside : ['/', '/'] <+: back ++ ['/'] := by
      apply List.prefix_of_prefix_length_le begins
      · simp
      · have := List.length_pos_iff.mpr nonempty
        simp only [List.length_cons, List.length_nil, List.length_append]
        omega
    obtain ⟨front, rfl⟩ := suffix
    rw [List.append_assoc]
    exact inside.isInfix.trans (List.suffix_append front _).isInfix
  · intro c rest same
    exact .inr (beginsComment_iff.mpr ⟨tail, rfl⟩)

theorem scanFrom_of_beginsComment (column : Nat) (tail : List Char) :
    scanFrom column ('/' :: '/' :: tail) = .ok [] := by
  have visible : isBlank '/' = false := by decide
  rw [scanFrom_eq, step_of_visible visible]
  rfl

theorem scanFrom_comment {word : List Char}
    (visible : ∀ c ∈ word, isBlank c = false)
    (unquoted : word.head? ≠ some '"')
    (first : ¬ ['/', '/'] <:+: word ++ ['/']) (column : Nat)
    (tail : List Char) :
    scanFrom column (word ++ '/' :: '/' :: tail) =
      .ok (if word = [] then []
        else [⟨.word (String.ofList word), column⟩]) := by
  have split := splitWord_comment visible first tail
  by_cases empty : word = []
  · rw [if_pos empty, empty]
    exact scanFrom_of_beginsComment column tail
  · rw [if_neg empty, scanFrom_eq, step_of_splitWord split empty unquoted]
    simp only [scanFrom_of_beginsComment]
    rfl

end TealTools.Token

import Mathlib.Data.List.TakeWhile
import TealTools.Token

/-!
# How tokens lie in a line

Every token is read from characters of its line that stand at its column.
Only separators stand between two tokens, and reading ends at the end of the
line, at a comment, at a blank that is no separator, or at a literal that does
not close.
-/

namespace TealTools.Token

open Text

/-- The characters between the quotes of a literal, and the bytes that they
spell. -/
inductive SpellsLiteral : List Char → Bytes → Prop where
  | nil : SpellsLiteral [] []
  | plain {c : Char} {body : List Char} {bytes : Bytes} :
      c ≠ '"' → c ≠ '\\' → SpellsLiteral body bytes →
      SpellsLiteral (c :: body) (String.utf8EncodeChar c ++ bytes)
  | escape {c : Char} {byte : UInt8} {body : List Char} {bytes : Bytes} :
      escaped? c = some byte → SpellsLiteral body bytes →
      SpellsLiteral ('\\' :: c :: body) (byte :: bytes)
  | hexadecimal {high low : Char} {byte : UInt8} {body : List Char}
      {bytes : Bytes} :
      hexByte? high low = some byte → SpellsLiteral body bytes →
      SpellsLiteral ('\\' :: 'x' :: high :: low :: body) (byte :: bytes)

/-- A word is its own text, and a literal runs from its opening quote to its
closing one. -/
inductive Written : TokenKind → List Char → Prop where
  | word (text : String) : Written (.word text) text.toList
  | literal {body : List Char} {bytes : Bytes} :
      SpellsLiteral body bytes →
      Written (.literal bytes) ('"' :: (body ++ ['"']))

/-- A literal begins here, and there is no closing quote for it. -/
def Unclosed (text : List Char) : Prop :=
  ∃ behind, text = '"' :: behind ∧
    ∀ body bytes after, SpellsLiteral body bytes →
      behind ≠ body ++ '"' :: after

/-- A blank that is no separator stands here. -/
def BeginsStray (text : List Char) : Prop :=
  ∃ c rest, text = c :: rest ∧ isBlank c ∧ isSeparator c = false

/-- Reading ends here: at the end of the line, at a comment, or at a blank
that is no separator. -/
def Ends (text : List Char) : Prop :=
  text = [] ∨ beginsComment text ∨ BeginsStray text

/-- A token and the characters of a line that it is read from. -/
structure Lexeme where
  token : Token
  /-- The number of characters in front of it. -/
  start : Nat
  text : List Char

namespace Lexeme

def stop (lexeme : Lexeme) : Nat :=
  lexeme.start + lexeme.text.length

def Contains (lexeme : Lexeme) (position : Nat) : Prop :=
  lexeme.start ≤ position ∧ position < lexeme.stop

/-- The characters stand in the line at the column of the token. -/
structure LiesIn (chars : List Char) (lexeme : Lexeme) : Prop where
  column : lexeme.token.column = lexeme.start + 1
  text : lexeme.text <+: chars.drop lexeme.start
  written : Written lexeme.token.kind lexeme.text
  nonempty : lexeme.text ≠ []
  /-- There is no blank in a word, and no comment begins in it. -/
  unbroken : ∀ word, lexeme.token.kind = .word word →
    ∀ position, lexeme.Contains position →
      ∃ c rest, chars.drop position = c :: rest ∧ isBlank c = false ∧
        beginsComment (c :: rest) = false

end Lexeme

/-- Nothing but separators stands between two places of a line. -/
def Gap (chars : List Char) (start stop : Nat) : Prop :=
  ∀ position c, start ≤ position → position < stop →
    chars[position]? = some c → isSeparator c

/-- Lexemes that follow one another from one place of a line to another, with
nothing but separators around them. -/
inductive Reads (chars : List Char) : Nat → List Lexeme → Nat → Prop where
  | nil {start stop : Nat} :
      start ≤ stop → Gap chars start stop → Reads chars start [] stop
  | cons {start stop : Nat} {lexeme : Lexeme} {lexemes : List Lexeme} :
      start ≤ lexeme.start → Gap chars start lexeme.start →
      lexeme.LiesIn chars → Reads chars lexeme.stop lexemes stop →
      Reads chars start (lexeme :: lexemes) stop

/-! ## Words and literals -/

theorem Written.eq_toList {text : String} {span : List Char}
    (written : Written (.word text) span) : span = text.toList := by
  cases written
  rfl

theorem columnAfter_eq {span : List Char} (column : Nat)
    (oneLine : '\n' ∉ span) :
    columnAfter column span = column + span.length := by
  induction span generalizing column with
  | nil => rfl
  | cons c span induction =>
      rw [List.mem_cons, not_or] at oneLine
      have step : columnAfter column (c :: span) =
          columnAfter (column + 1) span := by
        rw [columnAfter, List.foldl_cons, if_neg (Ne.symm oneLine.1),
          columnAfter]
      rw [step, induction (column + 1) oneLine.2, List.length_cons]
      omega

theorem splitWord_append (input : List Char) :
    (splitWord input).1 ++ (splitWord input).2 = input := by
  induction input with
  | nil => rfl
  | cons c rest induction =>
      unfold splitWord
      split
      · rfl
      · exact congrArg (c :: ·) induction

theorem splitWord_unbroken {input : List Char} {index : Nat}
    (inside : index < (splitWord input).1.length) :
    ∃ c rest, input.drop index = c :: rest ∧ isBlank c = false ∧
      beginsComment (c :: rest) = false := by
  induction input generalizing index with
  | nil => exact absurd inside (Nat.not_lt_zero index)
  | cons c rest induction =>
      unfold splitWord at inside
      split at inside
      · exact absurd inside (Nat.not_lt_zero index)
      · rename_i goesOn
        rw [Bool.or_eq_true, not_or, Bool.not_eq_true,
          Bool.not_eq_true] at goesOn
        cases index with
        | zero => exact ⟨c, rest, rfl, goesOn.1, goesOn.2⟩
        | succ index => exact induction (Nat.lt_of_succ_lt_succ inside)

theorem splitLiteral_append (input : List Char) :
    (splitLiteral input).span ++ (splitLiteral input).rest = input := by
  fun_induction splitLiteral input <;> simp_all [LiteralBody.cons]

theorem spells_splitLiteral (input : List Char) :
    SpellsLiteral (splitLiteral input).span (splitLiteral input).bytes := by
  fun_induction splitLiteral input with
  | case1 => exact .nil
  | case2 => exact .nil
  | case3 high low rest byte value induction =>
      exact .hexadecimal value induction
  | case4 => exact .nil
  | case5 c rest _ byte value induction => exact .escape value induction
  | case6 => exact .nil
  | case7 => exact .nil
  | case8 c rest noQuote _ notEscaped notLast induction =>
      refine .plain noQuote ?_ induction
      intro backslash
      cases rest with
      | nil => exact notLast backslash rfl
      | cons next rest => exact notEscaped next rest backslash rfl

@[simp] theorem LiteralBody.cons_cons
    (span more : List Char) (bytes others : Bytes)
    (body : LiteralBody) :
    (body.cons more others).cons span bytes =
      body.cons (span ++ more) (bytes ++ others) := by
  simp [LiteralBody.cons]

/-- What spells bytes is read first, whatever follows it. -/
theorem splitLiteral_spelled {body : List Char} {bytes : Bytes}
    (spelled : SpellsLiteral body bytes) (rest : List Char) :
    splitLiteral (body ++ rest) = (splitLiteral rest).cons body bytes := by
  induction spelled with
  | nil => rfl
  | plain noQuote noBackslash _ induction =>
      rw [List.cons_append, splitLiteral, induction, LiteralBody.cons_cons]
      · rfl
      all_goals simp_all
  | escape value _ induction =>
      rw [List.cons_append, List.cons_append, splitLiteral, value, induction]
      · exact LiteralBody.cons_cons _ _ _ _ _
      · rintro high low rest rfl
        cases value
  | hexadecimal value _ induction =>
      simp only [List.cons_append, splitLiteral, value, induction]
      exact LiteralBody.cons_cons _ _ _ _ _

/-- A literal is read up to its closing quote, if there is one. -/
theorem splitLiteral_of_spells {body : List Char} {bytes : Bytes}
    (spelled : SpellsLiteral body bytes) (after : List Char) :
    splitLiteral (body ++ '"' :: after) = ⟨body, bytes, '"' :: after⟩ := by
  rw [splitLiteral_spelled spelled, splitLiteral]
  simp [LiteralBody.cons]

/-! ## One token -/

theorem stepAt_eq_done_iff {column : Nat} {c : Char} {rest : List Char} :
    stepAt column (c :: rest) = .done ↔
      beginsComment (c :: rest) ∨ isBlank c := by
  simp only [stepAt]
  by_cases comment : beginsComment (c :: rest)
  · simp [comment]
  · rw [if_neg comment]
    by_cases quote : c = '"'
    · -- A literal is a token or a fault, and a quote is no blank.
      subst quote
      have visible : isBlank '"' = false := by decide
      rw [if_pos rfl, visible]
      split <;> simp [comment]
    · rw [if_neg quote, splitWord]
      by_cases blank : isBlank c
      · simp [blank]
      · simp [blank, comment]

/-- What the outcome of reading one token from a place of a line says. -/
def StepReads (chars : List Char) (start : Nat) : Step → Prop
  | .done => ∃ stop, Reads chars start [] stop ∧ Ends (chars.drop stop)
  | .stuck fault => ∃ stop, Reads chars start [] stop ∧
      fault.column = stop + 1 ∧ Unclosed (chars.drop stop)
  | .found token next rest => ∃ lexeme : Lexeme, lexeme.token = token ∧
      start ≤ lexeme.start ∧ Gap chars start lexeme.start ∧
      lexeme.LiesIn chars ∧ next = lexeme.stop + 1 ∧
      rest = chars.drop lexeme.stop

theorem gap_self (chars : List Char) (start : Nat) : Gap chars start start := by
  intro position c behind before
  omega

theorem reads_self (chars : List Char) (start : Nat) :
    Reads chars start [] start :=
  .nil (Nat.le_refl start) (gap_self chars start)

theorem Gap.trans {chars : List Char} {start middle stop : Nat}
    (front : Gap chars start middle) (back : Gap chars middle stop) :
    Gap chars start stop := by
  intro position c behind before found
  by_cases early : position < middle
  · exact front position c behind early found
  · exact back position c (Nat.le_of_not_lt early) before found

theorem Reads.of_gap {chars : List Char} {start middle stop : Nat}
    {lexemes : List Lexeme} (order : start ≤ middle)
    (gap : Gap chars start middle) (reads : Reads chars middle lexemes stop) :
    Reads chars start lexemes stop := by
  cases reads with
  | nil further behind =>
      exact .nil (Nat.le_trans order further) (gap.trans behind)
  | cons further behind own rest =>
      exact .cons (Nat.le_trans order further) (gap.trans behind) own rest

theorem StepReads.of_gap {chars : List Char} {start middle : Nat} {step : Step}
    (order : start ≤ middle) (gap : Gap chars start middle)
    (reads : StepReads chars middle step) : StepReads chars start step := by
  cases step with
  | done =>
      obtain ⟨stop, further, ends⟩ := reads
      exact ⟨stop, further.of_gap order gap, ends⟩
  | stuck fault =>
      obtain ⟨stop, further, column, unclosed⟩ := reads
      exact ⟨stop, further.of_gap order gap, column, unclosed⟩
  | found token next rest =>
      obtain ⟨lexeme, own, further, behind, lies, column, left⟩ := reads
      exact ⟨lexeme, own, Nat.le_trans order further, gap.trans behind, lies,
        column, left⟩

private theorem stepReads_found {chars text after : List Char} {start : Nat}
    {kind : TokenKind} (oneLine : '\n' ∉ chars)
    (here : chars.drop start = text ++ after) (nonempty : text ≠ [])
    (written : Written kind text)
    (unbroken : ∀ word, kind = .word word → ∀ index, index < text.length →
      ∃ c rest, (text ++ after).drop index = c :: rest ∧ isBlank c = false ∧
        beginsComment (c :: rest) = false) :
    StepReads chars start
      (.found ⟨kind, start + 1⟩ (columnAfter (start + 1) text) after) := by
  have inLine : '\n' ∉ text := by
    intro member
    have dropped : '\n' ∈ chars.drop start := by
      rw [here]
      exact List.mem_append_left after member
    exact oneLine (List.mem_of_mem_drop dropped)
  refine ⟨⟨⟨kind, start + 1⟩, start, text⟩, rfl, Nat.le_refl start,
    gap_self chars start, ⟨rfl, ?_, written, nonempty, ?_⟩, ?_, ?_⟩
  · exact ⟨after, here.symm⟩
  · intro word own position inside
    obtain ⟨index, rfl⟩ := Nat.exists_eq_add_of_le inside.1
    have short : index < text.length := by
      have := inside.2
      simp only [Lexeme.stop] at this
      omega
    rw [← List.drop_drop, here]
    exact unbroken word own index short
  · rw [columnAfter_eq _ inLine, Nat.add_right_comm]
    rfl
  · rw [Lexeme.stop, ← List.drop_drop, here, List.drop_left]

private theorem stepReads_stepAt {chars : List Char} {start : Nat}
    (oneLine : '\n' ∉ chars)
    (noSeparator : ∀ c ∈ (chars.drop start).head?, isSeparator c = false) :
    StepReads chars start (stepAt (start + 1) (chars.drop start)) := by
  cases here : chars.drop start with
  | nil => exact ⟨start, reads_self chars start, .inl here⟩
  | cons c rest =>
      rw [here] at noSeparator
      simp only [stepAt]
      split
      · rename_i comment
        exact ⟨start, reads_self chars start, .inr (.inl (here ▸ comment))⟩
      · rename_i noComment
        split
        · rename_i quote
          have body := spells_splitLiteral rest
          have whole := splitLiteral_append rest
          split
          · rename_i after closed
            rw [closed] at whole
            apply stepReads_found oneLine ?_ (List.cons_ne_nil _ _)
              (.literal body)
            · intro word own
              cases own
            · rw [here, quote]
              simp [whole]
          · rename_i stuck
            refine ⟨start, reads_self chars start, rfl, rest, ?_, ?_⟩
            · rw [here, quote]
            · intro body bytes after spelled closed
              rw [closed, splitLiteral_of_spells spelled] at stuck
              exact stuck after rfl
        · have whole := splitWord_append (c :: rest)
          split
          · rename_i isEmpty
            -- No comment begins here, so that only a blank ends a word at once.
            refine ⟨start, reads_self chars start, .inr (.inr ?_)⟩
            refine ⟨c, rest, here, ?_, noSeparator c rfl⟩
            unfold splitWord at isEmpty
            split at isEmpty
            · rename_i ends
              simpa [noComment] using ends
            · cases isEmpty
          · rename_i notEmpty
            apply stepReads_found oneLine (here.trans whole.symm)
              (by simpa using notEmpty)
            · simpa using Written.word (String.ofList (splitWord (c :: rest)).1)
            · intro word own index inside
              rw [whole]
              exact splitWord_unbroken inside

private theorem gap_takeWhile (chars : List Char) (start : Nat) :
    Gap chars start
      (start + ((chars.drop start).takeWhile isSeparator).length) := by
  intro position c late early found
  obtain ⟨index, rfl⟩ := Nat.exists_eq_add_of_le late
  have inside : index < ((chars.drop start).takeWhile isSeparator).length := by
    omega
  have dropped : (chars.drop start)[index]? = some c := by
    rw [List.getElem?_drop, found]
  rw [← List.takeWhile_append_dropWhile (p := isSeparator)
    (l := chars.drop start), List.getElem?_append_left inside] at dropped
  exact List.mem_takeWhile_imp (List.mem_of_getElem? dropped)

private theorem drop_takeWhile (chars : List Char) (start : Nat) :
    chars.drop (start + ((chars.drop start).takeWhile isSeparator).length) =
      (chars.drop start).dropWhile isSeparator := by
  rw [← List.drop_drop]
  generalize chars.drop start = input
  calc
    input.drop (input.takeWhile isSeparator).length =
        (input.takeWhile isSeparator ++ input.dropWhile isSeparator).drop
          (input.takeWhile isSeparator).length := by
      rw [List.takeWhile_append_dropWhile]
    _ = input.dropWhile isSeparator := List.drop_left

theorem stepReads_step {chars : List Char} (start : Nat)
    (oneLine : '\n' ∉ chars) :
    StepReads chars start (step (start + 1) (chars.drop start)) := by
  have inLine : '\n' ∉ (chars.drop start).takeWhile isSeparator := by
    intro member
    exact oneLine (List.mem_of_mem_drop
      ((List.takeWhile_prefix isSeparator).mem member))
  rw [step, columnAfter_eq _ inLine, Nat.add_right_comm, ← drop_takeWhile]
  apply StepReads.of_gap (Nat.le_add_right start _) (gap_takeWhile chars start)
  apply stepReads_stepAt oneLine
  intro c first
  rw [drop_takeWhile] at first
  have stops := List.head?_dropWhile_not isSeparator (chars.drop start)
  rw [first] at stops
  simpa using stops

/-! ## Whole lines -/

/-- What the outcome of reading the tokens from a place of a line says. -/
def ScanReads (chars : List Char) (start : Nat) :
    Except (At Assembly.Fault) (List Token) → Prop
  | .ok tokens => ∃ lexemes stop, Reads chars start lexemes stop ∧
      lexemes.map (·.token) = tokens ∧ Ends (chars.drop stop)
  | .error fault => ∃ lexemes stop, Reads chars start lexemes stop ∧
      fault.column = stop + 1 ∧ Unclosed (chars.drop stop)

theorem scanReads_scanFrom {chars input : List Char} {start column : Nat}
    (oneLine : '\n' ∉ chars) (place : column = start + 1)
    (here : input = chars.drop start) :
    ScanReads chars start (scanFrom column input) := by
  fun_induction scanFrom column input generalizing start with
  | case1 column input done =>
      subst place here
      have reads := stepReads_step start oneLine
      rw [done] at reads
      obtain ⟨stop, gap, ends⟩ := reads
      exact ⟨[], stop, gap, rfl, ends⟩
  | case2 column input fault stuck =>
      subst place here
      have reads := stepReads_step start oneLine
      rw [stuck] at reads
      obtain ⟨stop, gap, unclosed⟩ := reads
      exact ⟨[], stop, gap, unclosed⟩
  | case3 column input token next rest found induction =>
      subst place here
      have reads := stepReads_step start oneLine
      rw [found] at reads
      obtain ⟨lexeme, rfl, order, gap, lies, column, left⟩ := reads
      have more := induction column left
      cases scanned : scanFrom next rest with
      | ok tokens =>
          rw [scanned] at more
          obtain ⟨lexemes, stop, further, rfl, ends⟩ := more
          exact ⟨lexeme :: lexemes, stop, .cons order gap lies further, rfl,
            ends⟩
      | error fault =>
          rw [scanned] at more
          obtain ⟨lexemes, stop, further, unclosed⟩ := more
          exact ⟨lexeme :: lexemes, stop, .cons order gap lies further,
            unclosed⟩

theorem reads_of_scan_ok {chars : List Char} {tokens : List Token}
    (oneLine : '\n' ∉ chars) (scanned : scan chars = .ok tokens) :
    ∃ lexemes stop, Reads chars 0 lexemes stop ∧
      lexemes.map (·.token) = tokens ∧ Ends (chars.drop stop) := by
  have reads := scanReads_scanFrom oneLine rfl (chars.drop_zero).symm
  rw [← scan, scanned] at reads
  exact reads

theorem reads_of_scan_error {chars : List Char} {fault : At Assembly.Fault}
    (oneLine : '\n' ∉ chars) (scanned : scan chars = .error fault) :
    ∃ lexemes stop, Reads chars 0 lexemes stop ∧
      fault.column = stop + 1 ∧ Unclosed (chars.drop stop) := by
  have reads := scanReads_scanFrom oneLine rfl (chars.drop_zero).symm
  rw [← scan, scanned] at reads
  exact reads

/-! ## Lexemes in order -/

theorem Reads.liesIn {chars : List Char} {start stop : Nat}
    {lexemes : List Lexeme} (reads : Reads chars start lexemes stop)
    {lexeme : Lexeme} (member : lexeme ∈ lexemes) : lexeme.LiesIn chars := by
  induction reads with
  | nil => cases member
  | cons _ _ lies _ induction =>
      rcases List.mem_cons.mp member with rfl | later
      · exact lies
      · exact induction later

theorem Lexeme.start_le_stop (lexeme : Lexeme) : lexeme.start ≤ lexeme.stop :=
  Nat.le_add_right _ _

theorem Reads.start_le_stop {chars : List Char} {start stop : Nat}
    {lexemes : List Lexeme} (reads : Reads chars start lexemes stop) :
    start ≤ stop := by
  induction reads with
  | nil order _ => exact order
  | @cons start stop lexeme lexemes order _ _ _ induction =>
      have := lexeme.start_le_stop
      omega

theorem Reads.bounds {chars : List Char} {start stop : Nat}
    {lexemes : List Lexeme} (reads : Reads chars start lexemes stop)
    {lexeme : Lexeme} (member : lexeme ∈ lexemes) :
    start ≤ lexeme.start ∧ lexeme.stop ≤ stop := by
  induction reads with
  | nil => cases member
  | @cons start stop first lexemes order _ _ rest induction =>
      rcases List.mem_cons.mp member with rfl | later
      · exact ⟨order, rest.start_le_stop⟩
      · have within := induction later
        have := first.start_le_stop
        exact ⟨by omega, within.2⟩

theorem Reads.ordered {chars : List Char} {start stop : Nat}
    {lexemes : List Lexeme} (reads : Reads chars start lexemes stop) :
    lexemes.Pairwise fun first second => first.stop ≤ second.start := by
  induction reads with
  | nil => exact .nil
  | cons _ _ _ rest induction =>
      refine .cons ?_ induction
      intro other member
      exact (rest.bounds member).1

theorem Lexeme.LiesIn.start_lt_stop {chars : List Char} {lexeme : Lexeme}
    (lies : lexeme.LiesIn chars) : lexeme.start < lexeme.stop := by
  have := List.length_pos_iff.mpr lies.nonempty
  rw [Lexeme.stop]
  omega

/-- The columns of the tokens of a line increase. -/
theorem columns_increase {chars : List Char} {tokens : List Token}
    (oneLine : '\n' ∉ chars) (scanned : scan chars = .ok tokens) :
    tokens.Pairwise fun first second => first.column < second.column := by
  obtain ⟨lexemes, stop, reads, rfl, _⟩ := reads_of_scan_ok oneLine scanned
  rw [List.pairwise_map]
  apply reads.ordered.imp_of_mem
  intro first second early late apart
  have := (reads.liesIn early).start_lt_stop
  rw [(reads.liesIn early).column, (reads.liesIn late).column]
  omega

end TealTools.Token

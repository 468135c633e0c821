import Mathlib.Data.List.Induction
import TealTools.Proofs.Token.Rendering

/-!
# Literals that do not close

A line is refused exactly when reading reaches a literal whose plain
characters and escapes, read as far as they go, are not followed by a quote.
What is reported depends on nothing behind the character or the escape at
which the literal breaks off.
-/

namespace TealTools.Token

open Text

/-- The column of a place, given the characters in front of it: characters
count from the last line feed on. -/
def columnBehind (front : List Char) : Nat :=
  1 + (front.reverse.takeWhile (· ≠ '\n')).length

/-- A literal begins behind the front of a line, its pieces go as far as the
span does, and no quote follows them. -/
structure Unfinished (line front span left : List Char) : Prop where
  line : line = front ++ '"' :: (span ++ left)
  /-- The front is read token by token. -/
  reached : ∃ tokens, Passes ('"' :: (span ++ left)) 1 front tokens
  spelled : ∃ bytes, SpellsLiteral span bytes
  longest : ∀ longer bytes, longer <+: span ++ left →
    SpellsLiteral longer bytes → longer.length ≤ span.length
  unclosed : left.head? ≠ some '"'

/-- A backslash and what follows it, if that is no escape whatever stands
behind. -/
inductive WrongEscape : List Char → Prop where
  | letter {c : Char} :
      c ≠ 'x' → escaped? c = none → WrongEscape ['\\', c]
  | digits {high low : Char} :
      hexByte? high low = none → WrongEscape ['\\', 'x', high, low]

/-- Where the pieces of a literal end without a quote, the line is at its end,
maybe in the middle of an escape, or a wrong escape stands there. -/
inductive Breaks : List Char → Assembly.Fault → Prop where
  | ended : Breaks [] .unterminatedString
  | backslash : Breaks ['\\'] .unterminatedString
  | cutShort {digits : List Char} :
      digits.length < 2 →
      Breaks ('\\' :: 'x' :: digits)
        (.invalidByteConstant (String.ofList ('\\' :: 'x' :: digits)))
  | wrong {escape : List Char} (rest : List Char) :
      WrongEscape escape →
      Breaks (escape ++ rest) (.invalidByteConstant (String.ofList escape))

/-! ## Where pieces end -/

theorem columnBehind_eq (front : List Char) :
    columnAfter 1 front = columnBehind front := by
  induction front using List.reverseRecOn with
  | nil => rfl
  | append_singleton front c induction =>
      rw [columnAfter_append, induction, columnBehind, columnBehind,
        List.reverse_concat]
      by_cases lineFeed : c = '\n'
      · rw [List.takeWhile_cons_of_neg (by simpa using lineFeed), lineFeed]
        rfl
      · rw [List.takeWhile_cons_of_pos (by simpa using lineFeed)]
        simp only [columnAfter, List.foldl_cons, List.foldl_nil,
          if_neg lineFeed, List.length_cons]
        omega

theorem WrongEscape.splitLiteral {escape : List Char}
    (wrong : WrongEscape escape) (rest : List Char) :
    Token.splitLiteral (escape ++ rest) = ⟨[], [], escape ++ rest⟩ := by
  cases wrong with
  | letter other unknown =>
      rw [List.cons_append, List.cons_append, Token.splitLiteral, unknown]
      intro high low more same
      exact absurd same other
  | digits unknown =>
      simp only [List.cons_append, Token.splitLiteral, unknown]

theorem WrongEscape.literalFault {escape : List Char}
    (wrong : WrongEscape escape) (rest : List Char) :
    Token.literalFault (escape ++ rest) =
      .invalidByteConstant (String.ofList escape) := by
  cases wrong with
  | letter other _ =>
      rw [List.cons_append, List.cons_append, Token.literalFault]
      exact other
  | digits _ => rfl

theorem Breaks.literalFault {left : List Char} {fault : Assembly.Fault}
    (breaks : Breaks left fault) : Token.literalFault left = fault := by
  cases breaks with
  | ended => rfl
  | backslash => rfl
  | cutShort short =>
      rw [Token.literalFault, List.take_of_length_le (by omega)]
  | wrong rest wrong => exact wrong.literalFault rest

theorem Unfinished.rest_eq {line front span left : List Char}
    (unfinished : Unfinished line front span left) :
    (splitLiteral (span ++ left)).rest = left := by
  obtain ⟨bytes, spelled⟩ := unfinished.spelled
  have further := splitLiteral_spelled spelled left
  have more := spells_splitLiteral (span ++ left)
  have whole := splitLiteral_append (span ++ left)
  have bound := unfinished.longest _ _ ⟨_, whole⟩ more
  have own := splitLiteral_append left
  rw [further, LiteralBody.cons] at bound ⊢
  simp only [List.length_append] at bound
  have none : (splitLiteral left).span = [] :=
    List.eq_nil_of_length_eq_zero (by omega)
  rwa [none, List.nil_append] at own

/-! ## Reading up to a literal -/

private theorem stops_splitWord (input : List Char) :
    Stops (splitWord input).2 := by
  induction input with
  | nil =>
      intro c tail same
      cases same
  | cons c rest induction =>
      rw [splitWord]
      split
      · rename_i ends
        rintro d tail same
        cases same
        simpa using ends
      · exact induction

private theorem isWord_splitWord {c : Char} {rest : List Char}
    (nonempty : (splitWord (c :: rest)).1 ≠ []) (unquoted : c ≠ '"') :
    IsWord (splitWord (c :: rest)).1 := by
  have whole := splitWord_append (c :: rest)
  refine ⟨⟨?_, ?_⟩, nonempty, ?_⟩
  · intro d member
    obtain ⟨index, inside, rfl⟩ := List.getElem_of_mem member
    obtain ⟨e, tail, here, visible, _⟩ := splitWord_unbroken inside
    rw [← whole, List.drop_append_of_le_length inside.le,
      List.drop_eq_getElem_cons inside, List.cons_append,
      List.cons.injEq] at here
    rw [here.1]
    exact visible
  · rintro ⟨front, back, slashes⟩
    have inside : front.length < (splitWord (c :: rest)).1.length := by
      rw [← slashes]
      simp only [List.length_append, List.length_cons]
      omega
    obtain ⟨e, tail, here, _, noComment⟩ := splitWord_unbroken inside
    rw [← here, ← whole, ← slashes, List.append_assoc, List.append_assoc,
      List.drop_left] at noComment
    cases noComment
  · intro quoted
    obtain ⟨word, same⟩ := List.head?_eq_some_iff.mp quoted
    rw [same, List.cons_append, List.cons.injEq] at whole
    exact unquoted whole.1.symm

theorem IsWord.legible {text : List Char} (word : IsWord text) :
    Piece.Legible ⟨.word (String.ofList text), text⟩ := by
  rw [← String.toList_ofList (l := text)] at word
  have legible := Piece.Legible.word word
  rwa [String.toList_ofList] at legible

/-- A token at the head of a text, and what follows it. -/
theorem stepAt_eq_found {column next : Nat} {input rest : List Char}
    {token : Token} (found : stepAt column input = .found token next rest) :
    ∃ text, input = text ++ rest ∧ next = columnAfter column text ∧
      token.column = column ∧ Piece.Legible ⟨token.kind, text⟩ ∧
      (token.word?.isSome → Stops rest) := by
  cases input with
  | nil => cases found
  | cons c input =>
      simp only [stepAt] at found
      split at found
      · cases found
      · split at found
        · rename_i quote
          split at found
          · rename_i after closed
            cases found
            have whole := splitLiteral_append input
            rw [closed] at whole
            refine ⟨'"' :: ((splitLiteral input).span ++ ['"']), ?_, rfl, rfl,
              .literal (spells_splitLiteral input), fun word => ?_⟩
            · rw [quote, List.cons_append, List.append_assoc,
                List.singleton_append, whole]
            · cases word
          · cases found
        · rename_i noQuote
          split at found
          · cases found
          · rename_i nonempty
            cases found
            have own := @isWord_splitWord c input
              (by simpa using nonempty) noQuote
            refine ⟨(splitWord (c :: input)).1, (splitWord_append _).symm,
              rfl, rfl, own.legible, fun _ => stops_splitWord _⟩

private theorem stepAt_quote {behind : List Char}
    (unclosed : (splitLiteral behind).rest.head? ≠ some '"')
    (column : Nat) :
    stepAt column ('"' :: behind) =
      .stuck ⟨column, literalFault (splitLiteral behind).rest⟩ := by
  have noComment : beginsComment ('"' :: behind) = false := rfl
  rw [stepAt, noComment, if_neg Bool.false_ne_true, if_pos rfl]
  simp only
  split
  · rename_i after closed
    rw [closed] at unclosed
    exact absurd rfl unclosed
  · rfl

theorem Passes.scanFrom_quote {front behind : List Char} {column : Nat}
    {tokens : List Token} (passes : Passes ('"' :: behind) column front tokens)
    (unclosed : (splitLiteral behind).rest.head? ≠ some '"') :
    Token.scanFrom column (front ++ '"' :: behind) =
      .error ⟨columnAfter column front,
        literalFault (splitLiteral behind).rest⟩ := by
  have visible : isBlank '"' = false := by decide
  rw [passes.scanFrom, scanFrom_eq, step_of_visible visible,
    stepAt_quote unclosed]
  rfl

theorem Passes.congr {rest other text : List Char} {column : Nat}
    {tokens : List Token} (same : rest.head? = other.head?)
    (passes : Passes rest column text tokens) :
    Passes other column text tokens := by
  induction passes with
  | nil => exact .nil
  | separator separator _ induction => exact .separator separator induction
  | word own parted _ induction =>
      rw [List.head?_append, same, ← List.head?_append] at parted
      exact .word own parted induction
  | literal spelled _ induction => exact .literal spelled induction

/-! ## Refused lines -/

theorem Unfinished.scan {line front span left : List Char}
    (unfinished : Unfinished line front span left) :
    Token.scan line = .error ⟨columnBehind front, literalFault left⟩ := by
  obtain ⟨tokens, passes⟩ := unfinished.reached
  have same := unfinished.rest_eq
  have unclosed : (splitLiteral (span ++ left)).rest.head? ≠ some '"' := by
    rw [same]
    exact unfinished.unclosed
  have failed := passes.scanFrom_quote unclosed
  rwa [same, columnBehind_eq, ← unfinished.line] at failed

/-- What stands behind a wrong escape does not matter. -/
theorem Unfinished.replace {line front span escape rest : List Char}
    (unfinished : Unfinished line front span (escape ++ rest))
    (wrong : WrongEscape escape) (other : List Char) :
    Token.scan (front ++ '"' :: (span ++ (escape ++ other))) =
      Token.scan line := by
  obtain ⟨tokens, passes⟩ := unfinished.reached
  obtain ⟨bytes, spelled⟩ := unfinished.spelled
  have left : (splitLiteral (span ++ (escape ++ other))).rest =
      escape ++ other := by
    rw [splitLiteral_spelled spelled, wrong.splitLiteral]
    rfl
  have unclosed :
      (splitLiteral (span ++ (escape ++ other))).rest.head? ≠ some '"' := by
    rw [left]
    cases wrong <;> simp
  have quotes : ('"' :: (span ++ (escape ++ rest))).head? =
      ('"' :: (span ++ (escape ++ other))).head? := rfl
  have failed := (passes.congr quotes).scanFrom_quote unclosed
  rw [left, wrong.literalFault, columnBehind_eq] at failed
  rw [unfinished.scan, wrong.literalFault]
  exact failed

end TealTools.Token

import TealTools.Proofs.Token.Coverage
import TealTools.Proofs.Token.Unfinished

/-!
# Tokens in the order of their line

The tokens of a line stand one behind the other, each in characters of its own
and all of them in front of any comment.  A word is what stands at its column
up to the end of the line, a blank or a comment.
-/

namespace TealTools.Token

open Text

/-- A token stands in a line at its column: as the characters of a word that
goes no further, or as a literal from its opening quote to its closing one. -/
inductive StandsIn (line : List Char) : Token → Prop where
  | word {front rest : List Char} {word : String} :
      line = front ++ (word.toList ++ rest) → IsWord word.toList →
      Stops rest → StandsIn line ⟨.word word, front.length + 1⟩
  | literal {front body rest : List Char} {bytes : Bytes} :
      line = front ++ '"' :: (body ++ '"' :: rest) →
      SpellsLiteral body bytes →
      StandsIn line ⟨.literal bytes, front.length + 1⟩

/-! ## Each token at its column -/

theorem StandsIn.of_legible {token : Token} {front text rest : List Char}
    (legible : Piece.Legible ⟨token.kind, text⟩)
    (column : token.column = front.length + 1)
    (stops : token.word?.isSome → Stops rest) :
    StandsIn (front ++ (text ++ rest)) token := by
  obtain ⟨kind, place⟩ := token
  cases column
  cases legible with
  | word own => exact .word rfl own (stops rfl)
  | @literal body bytes spelled =>
      have line : front ++ ('"' :: (body ++ ['"']) ++ rest) =
          front ++ '"' :: (body ++ '"' :: rest) := by simp
      exact .literal line spelled

/-- The token that is read behind the front of a line stands in the line, and
reading goes on at the column of what is left. -/
private theorem standsIn_of_step {front input rest : List Char} {token : Token}
    {next : Nat} (oneLine : '\n' ∉ front ++ input)
    (found : step (front.length + 1) input = .found token next rest) :
    StandsIn (front ++ input) token ∧
      ∃ before, front ++ input = before ++ rest ∧
        next = before.length + 1 := by
  obtain ⟨text, behind, after, own, legible, stops⟩ := stepAt_eq_found found
  have whole : input = input.takeWhile isSeparator ++ (text ++ rest) := by
    rw [← behind, List.takeWhile_append_dropWhile]
  generalize input.takeWhile isSeparator = gap at own after whole
  subst whole
  simp only [List.mem_append, not_or] at oneLine
  rw [columnAfter_eq _ oneLine.2.1] at own after
  rw [columnAfter_eq _ oneLine.2.2.1] at after
  have column : token.column = (front ++ gap).length + 1 := by
    rw [own, List.length_append]
    omega
  have place : next = (front ++ gap ++ text).length + 1 := by
    rw [after, List.length_append, List.length_append]
    omega
  have stands := StandsIn.of_legible legible column stops
  rw [List.append_assoc] at stands
  exact ⟨stands, front ++ gap ++ text, by simp, place⟩

private theorem standsIn_of_scanFrom {front input : List Char} {column : Nat}
    {tokens : List Token} (oneLine : '\n' ∉ front ++ input)
    (place : column = front.length + 1)
    (scanned : scanFrom column input = .ok tokens) :
    ∀ token ∈ tokens, StandsIn (front ++ input) token := by
  fun_induction scanFrom column input generalizing front tokens with
  | case1 column input done =>
      cases scanned
      intro token member
      cases member
  | case2 column input fault stuck => cases scanned
  | case3 column input token next rest found induction =>
      subst place
      -- What was read joins the front, and the whole line stays the same.
      obtain ⟨stands, before, line, place⟩ := standsIn_of_step oneLine found
      rw [line] at oneLine stands ⊢
      cases more : scanFrom next rest with
      | error fault =>
          rw [more] at scanned
          cases scanned
      | ok others =>
          rw [more] at scanned
          cases scanned
          exact List.forall_mem_cons.mpr
            ⟨stands, induction oneLine place more⟩

/-! ## Characters of a token -/

theorem Written.unique {kind : TokenKind} {line text other : List Char}
    (written : Written kind text) (also : Written kind other)
    (begins : text <+: line) (alike : other <+: line) : text = other := by
  cases written with
  | word word => exact also.eq_toList.symm
  | literal spelled =>
      cases also with
      | literal spelledAlso =>
          obtain ⟨after, rfl⟩ := begins
          obtain ⟨behind, same⟩ := alike
          simp only [List.cons_append, List.append_assoc, List.nil_append,
            List.cons.injEq, true_and] at same
          have first := splitLiteral_of_spells spelled after
          have second := splitLiteral_of_spells spelledAlso behind
          rw [same, first] at second
          rw [(LiteralBody.mk.inj second).1]

theorem Lexeme.LiesIn.unique {chars : List Char} {lexeme other : Lexeme}
    (lies : lexeme.LiesIn chars) (also : other.LiesIn chars)
    (same : lexeme.token = other.token) : lexeme = other := by
  obtain ⟨token, start, text⟩ := lexeme
  obtain ⟨_, place, span⟩ := other
  cases same
  have starts : start = place :=
    Nat.succ.inj (lies.column.symm.trans also.column)
  subst starts
  have texts : text = span :=
    lies.written.unique also.written lies.text also.text
  rw [texts]

/-- The tokens of a line say from which characters they are read. -/
theorem Accounts.unique {chars : List Char} {tokens : List Token}
    {lexemes others : List Lexeme} (accounts : Accounts chars tokens lexemes)
    (also : Accounts chars tokens others) : lexemes = others := by
  have same := accounts.tokens.trans also.tokens.symm
  have lies := accounts.lies
  have liesAlso := also.lies
  clear accounts also
  induction lexemes generalizing others with
  | nil => exact (List.map_eq_nil_iff.mp same.symm).symm
  | cons lexeme lexemes induction =>
      obtain ⟨other, others, rfl, first, later⟩ :=
        List.map_eq_cons_iff.mp same.symm
      obtain ⟨here, behind⟩ := List.forall_mem_cons.mp lies
      obtain ⟨hereAlso, behindAlso⟩ := List.forall_mem_cons.mp liesAlso
      rw [here.unique hereAlso first.symm,
        induction later.symm behind behindAlso]

/-! ## Comments -/

theorem Reads.stop_le_of_commentAt {chars : List Char} {stop place : Nat}
    {lexemes : List Lexeme} (reads : Reads chars 0 lexemes stop)
    (comment : CommentAt chars lexemes place) {lexeme : Lexeme}
    (member : lexeme ∈ lexemes) : lexeme.stop ≤ place := by
  have reached : stop ≤ place := by
    by_contra before
    exact (reads.reaches (Nat.lt_of_not_le before)).1 comment
  exact Nat.le_trans (reads.bounds member).2 reached

/-- The tokens of a line stand in it at increasing columns, and the characters
that they are read from neither overlap nor reach into a comment. -/
theorem tokens_stand_in_order (chars : List Char) (tokens : List Token)
    (oneLine : '\n' ∉ chars) (scanned : scan chars = .ok tokens) :
    tokens.Pairwise (fun first second => first.column < second.column) ∧
      (∀ token ∈ tokens, StandsIn chars token) ∧
      ∃ lexemes, Accounts chars tokens lexemes ∧
        (∀ others, Accounts chars tokens others → others = lexemes) ∧
        ∀ place, CommentAt chars lexemes place →
          ∀ lexeme ∈ lexemes, lexeme.stop ≤ place := by
  have stand := @standsIn_of_scanFrom [] chars 1 tokens oneLine rfl scanned
  refine ⟨columns_increase oneLine scanned, stand, ?_⟩
  obtain ⟨lexemes, stop, reads, own, -⟩ := reads_of_scan_ok oneLine scanned
  have accounts : Accounts chars tokens lexemes :=
    ⟨own, fun _ => reads.liesIn, reads.ordered⟩
  exact ⟨lexemes, accounts, fun _ also => also.unique accounts,
    fun _ comment _ => reads.stop_le_of_commentAt comment⟩

/-- A literal with slashes, a word that touches it, and a comment that touches
the word. -/
def touchingLine : List Char :=
  "\"//\"b/\"//d".toList

theorem tokens_stand_in_order_touchingLine :
    '\n' ∉ touchingLine ∧
      scan touchingLine =
        .ok [⟨.literal [0x2F, 0x2F], 1⟩, ⟨.word "b/\"", 5⟩] ∧
      StandsIn touchingLine ⟨.word "b/\"", 5⟩ ∧
      ∃ lexemes,
        Accounts touchingLine [⟨.literal [0x2F, 0x2F], 1⟩, ⟨.word "b/\"", 5⟩]
          lexemes ∧
        CommentAt touchingLine lexemes 7 ∧
        ∀ lexeme ∈ lexemes, lexeme.stop ≤ 7 := by
  have oneLine : '\n' ∉ touchingLine := by decide
  have scanned : scan touchingLine =
      .ok [⟨.literal [0x2F, 0x2F], 1⟩, ⟨.word "b/\"", 5⟩] := by
    cbv
  obtain ⟨-, stand, lexemes, accounts, -, clear⟩ :=
    tokens_stand_in_order _ _ oneLine scanned
  have comment : CommentAt touchingLine lexemes 7 := by
    refine ⟨by decide, ?_⟩
    obtain ⟨literal, _, rfl, first, later⟩ :=
      List.map_eq_cons_iff.mp accounts.tokens
    obtain ⟨word, _, rfl, second, later⟩ := List.map_eq_cons_iff.mp later
    cases List.map_eq_nil_iff.mp later
    have column : word.token.column = word.start + 1 :=
      (accounts.lies word (by simp)).column
    have apart : literal.stop ≤ word.start :=
      List.rel_of_pairwise_cons accounts.ordered (List.mem_singleton.mpr rfl)
    simp only [second] at column
    intro lexeme member isLiteral contains
    simp only [List.mem_cons, List.not_mem_nil, or_false] at member
    rcases member with rfl | rfl
    · have := contains.2
      omega
    · rw [second] at isLiteral
      cases isLiteral
  exact ⟨oneLine, scanned, stand _ (by simp), lexemes, accounts, comment,
    clear 7 comment⟩

end TealTools.Token

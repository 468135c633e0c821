import Mathlib.Logic.ExistsUnique
import TealTools.Proofs.Token.Spans

/-!
# Which characters of a line are read

A character that is no blank belongs to exactly one token, unless a comment
has begun in front of it, or a blank that is no separator stands there outside
the literals.  Such a blank ends the line, and what follows it is not read.
-/

namespace TealTools.Token

open Text

def OutsideLiterals (lexemes : List Lexeme) (position : Nat) : Prop :=
  ∀ lexeme ∈ lexemes, lexeme.token.word? = none →
    ¬ lexeme.Contains position

/-- Two slashes outside the literals. -/
def CommentAt (chars : List Char) (lexemes : List Lexeme) (position : Nat) :
    Prop :=
  beginsComment (chars.drop position) ∧ OutsideLiterals lexemes position

/-- A blank that is no separator, outside the literals. -/
def StrayAt (chars : List Char) (lexemes : List Lexeme) (position : Nat) :
    Prop :=
  BeginsStray (chars.drop position) ∧ OutsideLiterals lexemes position

/-- The tokens of a line with the characters that they are read from, in the
order of the line. -/
structure Accounts (chars : List Char) (tokens : List Token)
    (lexemes : List Lexeme) : Prop where
  tokens : lexemes.map (·.token) = tokens
  lies : ∀ lexeme ∈ lexemes, lexeme.LiesIn chars
  ordered : lexemes.Pairwise fun first second => first.stop ≤ second.start

/-- Every character that is no blank and stands in front of any comment
belongs to exactly one token. -/
def ReadsAll (chars : List Char) (tokens : List Token) : Prop :=
  ∃ lexemes, Accounts chars tokens lexemes ∧
    ∀ position c, chars[position]? = some c → isBlank c = false →
      (∀ place, place ≤ position → ¬ CommentAt chars lexemes place) →
      ∃! lexeme, lexeme ∈ lexemes ∧ lexeme.Contains position

theorem Reads.covers {chars : List Char} {start stop position : Nat}
    {lexemes : List Lexeme} {c : Char}
    (reads : Reads chars start lexemes stop) (behind : start ≤ position)
    (before : position < stop) (found : chars[position]? = some c) :
    isSeparator c ∨ ∃ lexeme ∈ lexemes, lexeme.Contains position := by
  induction reads with
  | nil _ gap => exact .inl (gap position c behind before found)
  | @cons start stop lexeme lexemes _ gap _ _ induction =>
      by_cases inGap : position < lexeme.start
      · exact .inl (gap position c behind inGap found)
      · by_cases inside : position < lexeme.stop
        · exact .inr ⟨lexeme, List.mem_cons_self,
            Nat.le_of_not_lt inGap, inside⟩
        · rcases induction (Nat.le_of_not_lt inside) before with
            separator | ⟨other, member, contains⟩
          · exact .inl separator
          · exact .inr ⟨other, List.mem_cons_of_mem lexeme member, contains⟩

theorem Reads.unique {chars : List Char} {start stop position : Nat}
    {lexemes : List Lexeme} (reads : Reads chars start lexemes stop)
    {first second : Lexeme} (early : first ∈ lexemes)
    (late : second ∈ lexemes) (here : first.Contains position)
    (there : second.Contains position) : first = second := by
  -- Of two lexemes the first one ends where the other one begins, or before.
  have apart : ∀ {lexeme other : Lexeme} {start : Nat} {more : List Lexeme},
      Reads chars lexeme.stop more start → other ∈ more →
      lexeme.Contains position → other.Contains position → False := by
    intro lexeme other start more rest member here there
    have := (rest.bounds member).1
    have := here.2
    have := there.1
    omega
  induction reads with
  | nil => cases early
  | cons _ _ _ rest induction =>
      rcases List.mem_cons.mp early with rfl | earlyRest
      · rcases List.mem_cons.mp late with rfl | lateRest
        · rfl
        · exact (apart rest lateRest here there).elim
      · rcases List.mem_cons.mp late with rfl | lateRest
        · exact (apart rest earlyRest there here).elim
        · exact induction earlyRest lateRest

theorem Reads.outsideLiterals {chars : List Char} {start stop : Nat}
    {lexemes : List Lexeme} (reads : Reads chars start lexemes stop) :
    OutsideLiterals lexemes stop := by
  intro lexeme member _ contains
  have := (reads.bounds member).2
  have := contains.2
  omega

/-- A comment begins with a slash, and not with a separator. -/
private theorem head_of_beginsComment {text : List Char}
    (comment : beginsComment text) :
    ∃ c rest, text = c :: rest ∧ isSeparator c = false := by
  unfold beginsComment at comment
  split at comment
  · exact ⟨_, _, rfl, by decide⟩
  · cases comment

/-- What ends the reading of a line does not stand in front of a place that
is reached, unless it is part of a literal. -/
theorem Reads.reaches {chars : List Char} {stop place : Nat}
    {lexemes : List Lexeme} (reads : Reads chars 0 lexemes stop)
    (before : place < stop) :
    ¬ CommentAt chars lexemes place ∧ ¬ StrayAt chars lexemes place := by
  have cases : ∀ {c : Char} {rest : List Char},
      chars.drop place = c :: rest → isSeparator c = false →
      OutsideLiterals lexemes place →
      isBlank c = false ∧ beginsComment (c :: rest) = false := by
    intro c rest here noSeparator outside
    have found : chars[place]? = some c := by
      rw [← List.head?_drop, here, List.head?_cons]
    rcases reads.covers (Nat.zero_le place) before found with
      separator | ⟨lexeme, member, contains⟩
    · rw [noSeparator] at separator
      cases separator
    · cases kind : lexeme.token.kind with
      | literal bytes =>
          have literal : lexeme.token.word? = none := by
            rw [word?, kind]
          exact (outside lexeme member literal contains).elim
      | word text =>
          obtain ⟨_, _, same, unbroken⟩ :=
            (reads.liesIn member).unbroken text kind place contains
          rw [here, List.cons.injEq] at same
          rw [same.1, same.2]
          exact unbroken
  constructor
  · rintro ⟨comment, outside⟩
    obtain ⟨c, rest, here, noSeparator⟩ := head_of_beginsComment comment
    have := (cases here noSeparator outside).2
    rw [here, this] at comment
    cases comment
  · rintro ⟨⟨c, rest, here, blank, noSeparator⟩, outside⟩
    have := (cases here noSeparator outside).1
    rw [this] at blank
    cases blank

/-- A character that is no blank belongs to exactly one token if and only if
it stands in front of any comment, and of any blank outside the literals that
is no separator. -/
theorem scan_accounts_for_characters (chars : List Char) (tokens : List Token)
    (oneLine : '\n' ∉ chars) (scanned : scan chars = .ok tokens) :
    ∃ lexemes, Accounts chars tokens lexemes ∧
      ∀ position c, chars[position]? = some c → isBlank c = false →
        ((∃! lexeme, lexeme ∈ lexemes ∧ lexeme.Contains position) ↔
          ∀ place, place ≤ position →
            ¬ CommentAt chars lexemes place ∧
              ¬ StrayAt chars lexemes place) := by
  obtain ⟨lexemes, stop, reads, own, ends⟩ := reads_of_scan_ok oneLine scanned
  refine ⟨lexemes, ⟨own, fun _ => reads.liesIn, reads.ordered⟩, ?_⟩
  intro position c found notBlank
  constructor
  · rintro ⟨lexeme, ⟨member, contains⟩, _⟩ place inFront
    apply reads.reaches
    have := (reads.bounds member).2
    have := contains.2
    omega
  · intro unmarked
    have before : position < stop := by
      by_contra late
      have reached : stop ≤ position := Nat.le_of_not_lt late
      rcases ends with finished | comment | stray
      · have short := List.drop_eq_nil_iff.mp finished
        have long := (List.getElem?_eq_some_iff.mp found).1
        omega
      · exact (unmarked stop reached).1 ⟨comment, reads.outsideLiterals⟩
      · exact (unmarked stop reached).2 ⟨stray, reads.outsideLiterals⟩
    rcases reads.covers (Nat.zero_le position) before found with
      separator | ⟨lexeme, member, contains⟩
    · rw [isBlank_of_isSeparator separator] at notBlank
      cases notBlank
    · refine ⟨lexeme, ⟨member, contains⟩, ?_⟩
      rintro other ⟨listed, also⟩
      exact reads.unique listed member also contains

/-- Slashes and a no-break space inside a literal, and a comment right behind
a word. -/
def literalLine : List Char :=
  "b \"\u00a0//\"c//d".toList

theorem scan_accounts_for_characters_literalLine :
    '\n' ∉ literalLine ∧
      scan literalLine =
        .ok [⟨.word "b", 1⟩, ⟨.literal [0xC2, 0xA0, 0x2F, 0x2F], 3⟩,
          ⟨.word "c", 8⟩] ∧
      ∃ lexemes,
        Accounts literalLine
          [⟨.word "b", 1⟩, ⟨.literal [0xC2, 0xA0, 0x2F, 0x2F], 3⟩,
            ⟨.word "c", 8⟩] lexemes ∧
        ∃! lexeme, lexeme ∈ lexemes ∧ lexeme.Contains 0 := by
  have oneLine : '\n' ∉ literalLine := by decide
  have scanned : scan literalLine =
      .ok [⟨.word "b", 1⟩, ⟨.literal [0xC2, 0xA0, 0x2F, 0x2F], 3⟩,
        ⟨.word "c", 8⟩] := by
    cbv
  obtain ⟨lexemes, accounts, reads⟩ :=
    scan_accounts_for_characters _ _ oneLine scanned
  refine ⟨oneLine, scanned, lexemes, accounts, ?_⟩
  apply (reads 0 'b' (by decide) (by decide)).mpr
  intro place inFront
  rw [Nat.le_zero.mp inFront]
  constructor
  · rintro ⟨comment, _⟩
    exact absurd comment (by decide)
  · rintro ⟨⟨c, rest, first, blank, _⟩, _⟩
    have same : literalLine.head? = some c := by
      rw [← List.drop_zero (l := literalLine), first, List.head?_cons]
    cases same
    exact absurd blank (by decide)

/-- A no-break space ends a line, and the word behind it is lost. -/
theorem not_readsAll_behind_noBreakSpace :
    scan ['a', '\u00a0', 'b'] = .ok [⟨.word "a", 1⟩] ∧
      ¬ ReadsAll ['a', '\u00a0', 'b'] [⟨.word "a", 1⟩] := by
  refine ⟨by cbv, ?_⟩
  rintro ⟨lexemes, accounts, complete⟩
  obtain ⟨lexeme, rfl, own⟩ : ∃ lexeme, lexemes = [lexeme] ∧
      lexeme.token = ⟨.word "a", 1⟩ := by
    have tokens := accounts.tokens
    rw [List.map_eq_singleton_iff] at tokens
    exact tokens
  have lies := accounts.lies lexeme (List.mem_singleton.mpr rfl)
  have noComment : ∀ place, place ≤ 2 →
      ¬ CommentAt ['a', '\u00a0', 'b'] [lexeme] place := by
    rintro place inFront ⟨comment, _⟩
    have : place = 0 ∨ place = 1 ∨ place = 2 := by omega
    rcases this with rfl | rfl | rfl <;> cases comment
  obtain ⟨other, ⟨member, contains⟩, _⟩ :=
    complete 2 'b' rfl (by decide) noComment
  rw [List.mem_singleton.mp member] at contains
  have start : lexeme.start = 0 := by
    have := lies.column
    rw [own] at this
    simpa using this.symm
  have text : lexeme.text = ['a'] := by
    have := lies.written
    rw [own] at this
    exact this.eq_toList
  have short := contains.2
  rw [Lexeme.stop, start, text] at short
  exact absurd short (by decide)

end TealTools.Token

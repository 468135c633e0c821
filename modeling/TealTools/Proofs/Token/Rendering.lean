import TealTools.Proofs.Token.Pieces

/-!
# Tokens are read as they were written

Tokens are written with runs of spaces and tabs between them, and maybe a
comment at the end.  Reading such a line gives back the same tokens, each at
the column behind the characters in front of it.
-/

namespace TealTools.Token

open Text

/-! ## Passing over tokens -/

/-- A text is passed over token by token, from a column on and in front of a
given rest.  A literal may touch what follows it, and a word may not. -/
inductive Passes (rest : List Char) : Nat → List Char → List Token → Prop where
  | nil {column : Nat} : Passes rest column [] []
  | separator {column : Nat} {c : Char} {text : List Char}
      {tokens : List Token} :
      isSeparator c → Passes rest (columnAfter column [c]) text tokens →
      Passes rest column (c :: text) tokens
  | word {column : Nat} {word : String} {text : List Char}
      {tokens : List Token} :
      IsWord word.toList → (∀ c ∈ (text ++ rest).head?, isSeparator c) →
      Passes rest (columnAfter column word.toList) text tokens →
      Passes rest column (word.toList ++ text)
        (⟨.word word, column⟩ :: tokens)
  | literal {column : Nat} {body : List Char} {bytes : Bytes}
      {text : List Char} {tokens : List Token} :
      SpellsLiteral body bytes →
      Passes rest (columnAfter column ('"' :: (body ++ ['"']))) text tokens →
      Passes rest column ('"' :: (body ++ ['"']) ++ text)
        (⟨.literal bytes, column⟩ :: tokens)

@[simp] theorem columnAfter_append (column : Nat) (front back : List Char) :
    columnAfter column (front ++ back) =
      columnAfter (columnAfter column front) back :=
  List.foldl_append

private theorem scanFrom_separator {c : Char} (separator : isSeparator c)
    (column : Nat) (rest : List Char) :
    scanFrom column (c :: rest) = scanFrom (columnAfter column [c]) rest := by
  have same : step column (c :: rest) =
      step (columnAfter column [c]) rest := by
    rw [step, List.takeWhile_cons_of_pos separator,
      List.dropWhile_cons_of_pos separator]
    rfl
  rw [scanFrom_eq, same, ← scanFrom_eq]

private theorem map_cons_map {α : Type} (first : Token) (tokens : List Token)
    (result : Except α (List Token)) :
    (result.map (tokens ++ ·)).map (first :: ·) =
      result.map (first :: tokens ++ ·) := by
  cases result <;> rfl

theorem Passes.scanFrom {rest text : List Char} {column : Nat}
    {tokens : List Token} (passes : Passes rest column text tokens) :
    Token.scanFrom column (text ++ rest) =
      (Token.scanFrom (columnAfter column text) rest).map (tokens ++ ·) := by
  induction passes with
  | @nil column =>
      cases scanned : Token.scanFrom column rest <;>
        simp [columnAfter, scanned, Except.map]
  | @separator column c text tokens separator _ induction =>
      rw [List.cons_append, scanFrom_separator separator, induction,
        ← columnAfter_append]
      rfl
  | @word column word text tokens own parted _ induction =>
      rw [List.append_assoc, scanFrom_eq, own.step column parted]
      simp only
      rw [induction, ← columnAfter_append, map_cons_map]
  | @literal column body bytes text tokens spelled _ induction =>
      rw [List.append_assoc, scanFrom_eq, spelled.step]
      simp only
      rw [induction, ← columnAfter_append, map_cons_map]

theorem Passes.separators {rest run text : List Char} {column : Nat}
    {tokens : List Token} (separators : ∀ c ∈ run, isSeparator c)
    (passes : Passes rest (columnAfter column run) text tokens) :
    Passes rest column (run ++ text) tokens := by
  induction run generalizing column with
  | nil => exact passes
  | cons c run induction =>
      obtain ⟨first, others⟩ := List.forall_mem_cons.mp separators
      exact .separator first (induction others passes)

/-! ## Rows of pieces -/

/-- A run of spaces and tabs. -/
def IsRun (run : List Char) : Prop :=
  ∀ c ∈ run, c = ' ' ∨ c = '\t'

instance (run : List Char) : Decidable (IsRun run) :=
  List.decidableBAll (fun c => c = ' ' ∨ c = '\t') run

/-- Pieces, each behind a run. -/
abbrev Row := List (List Char × Piece)

namespace Row

def text (row : Row) : List Char :=
  row.flatMap fun entry => entry.1 ++ entry.2.text

/-- The tokens of a row behind so many characters of its line. -/
def tokens (before : Nat) : Row → List Token
  | [] => []
  | (run, piece) :: row =>
    ⟨piece.kind, 1 + (before + run.length)⟩ ::
      tokens (before + run.length + piece.text.length) row

/-- Legible pieces without line feeds; only the first run may be empty. -/
structure LaidOut (row : Row) : Prop where
  runs : ∀ entry ∈ row, IsRun entry.1
  parted : ∀ entry ∈ row.tail, entry.1 ≠ []
  legible : ∀ entry ∈ row, entry.2.Legible
  oneLine : ∀ entry ∈ row, '\n' ∉ entry.2.text

@[simp] theorem tokens_append (before : Nat) (front back : Row) :
    (front ++ back).tokens before =
      front.tokens before ++ back.tokens (before + front.text.length) := by
  induction front generalizing before with
  | nil => rfl
  | cons entry front induction =>
      obtain ⟨run, piece⟩ := entry
      have next : before + (text ((run, piece) :: front)).length =
          before + run.length + piece.text.length + (text front).length := by
        simp [text, Nat.add_assoc]
      rw [List.cons_append, tokens, tokens, induction, next, List.cons_append]

end Row

/-- A legible piece without a line feed, behind a run that is not empty. -/
structure Follows (entry : List Char × Piece) : Prop where
  isRun : IsRun entry.1
  parted : entry.1 ≠ []
  legible : entry.2.Legible
  oneLine : '\n' ∉ entry.2.text

/-- What may stand behind a row: a run, and behind a run that is not empty a
comment. -/
inductive Trails : List Char → Prop where
  | run {run : List Char} : IsRun run → Trails run
  | comment {run : List Char} (text : List Char) :
      IsRun run → run ≠ [] → Trails (run ++ '/' :: '/' :: text)

theorem IsRun.separators {run : List Char} (isRun : IsRun run) :
    ∀ c ∈ run, isSeparator c := by
  intro c member
  rcases isRun c member with rfl | rfl <;> decide

theorem IsRun.columnAfter {run : List Char} (isRun : IsRun run)
    (before : Nat) :
    Token.columnAfter (1 + before) run = 1 + (before + run.length) := by
  rw [columnAfter_eq, Nat.add_assoc]
  intro member
  rcases isRun '\n' member with same | same <;> cases same

theorem head_run {run : List Char} (isRun : IsRun run) (nonempty : run ≠ [])
    (behind : List Char) : ∀ c ∈ (run ++ behind).head?, isSeparator c := by
  intro c first
  obtain ⟨d, run, rfl⟩ := List.exists_cons_of_ne_nil nonempty
  exact isRun.separators c (List.mem_of_head? first)

theorem Trails.head {trail : List Char} (trails : Trails trail) :
    ∀ c ∈ trail.head?, isSeparator c := by
  cases trails with
  | run isRun =>
      intro c first
      exact isRun.separators c (List.mem_of_head? first)
  | comment text isRun nonempty => exact head_run isRun nonempty _

theorem scanFrom_separators {run : List Char}
    (separators : ∀ c ∈ run, isSeparator c) (column : Nat)
    (rest : List Char) :
    scanFrom column (run ++ rest) =
      scanFrom (columnAfter column run) rest := by
  induction run generalizing column with
  | nil => rfl
  | cons c run induction =>
      obtain ⟨first, others⟩ := List.forall_mem_cons.mp separators
      rw [List.cons_append, scanFrom_separator first, induction others]
      rfl

theorem Trails.scanFrom {trail : List Char} (trails : Trails trail)
    (column : Nat) : Token.scanFrom column trail = .ok [] := by
  cases trails with
  | run isRun =>
      have scanned := scanFrom_separators isRun.separators column []
      rwa [List.append_nil, scanFrom_nil] at scanned
  | comment text isRun _ =>
      rw [scanFrom_separators isRun.separators, scanFrom_of_beginsComment]

/-! ## Whole lines -/

theorem Row.LaidOut.tail {entry : List Char × Piece} {row : Row}
    (laidOut : LaidOut (entry :: row)) :
    LaidOut row where
  runs := (List.forall_mem_cons.mp laidOut.runs).2
  parted other member :=
    laidOut.parted other (List.mem_of_mem_tail member)
  legible := (List.forall_mem_cons.mp laidOut.legible).2
  oneLine := (List.forall_mem_cons.mp laidOut.oneLine).2

theorem Row.laidOut_cons {leading : List Char} {piece : Piece} {row : Row}
    (indented : IsRun leading) (legible : piece.Legible)
    (oneLine : '\n' ∉ piece.text) (behind : ∀ entry ∈ row, Follows entry) :
    LaidOut ((leading, piece) :: row) where
  runs := List.forall_mem_cons.mpr
    ⟨indented, fun entry member => (behind entry member).isRun⟩
  parted entry member := (behind entry member).parted
  legible := List.forall_mem_cons.mpr
    ⟨legible, fun entry member => (behind entry member).legible⟩
  oneLine := List.forall_mem_cons.mpr
    ⟨oneLine, fun entry member => (behind entry member).oneLine⟩

/-- Behind a piece of a row stands a separator, if anything does. -/
theorem Row.LaidOut.head {entry : List Char × Piece} {row : Row}
    (laidOut : LaidOut (entry :: row)) {trail : List Char}
    (trails : Trails trail) :
    ∀ c ∈ (row.text ++ trail).head?, isSeparator c := by
  cases row with
  | nil => exact trails.head
  | cons next row =>
      have isRun := laidOut.tail.runs next List.mem_cons_self
      have nonempty := laidOut.parted next List.mem_cons_self
      rw [Row.text, List.flatMap_cons, List.append_assoc, List.append_assoc]
      exact head_run isRun nonempty _

theorem Row.LaidOut.passes {row : Row} (laidOut : row.LaidOut)
    {trail : List Char} (trails : Trails trail) (before : Nat) :
    Passes trail (1 + before) row.text (row.tokens before) := by
  induction row generalizing before with
  | nil => exact .nil
  | cons entry row induction =>
      obtain ⟨run, piece⟩ := entry
      have isRun := laidOut.runs _ List.mem_cons_self
      have oneLine := laidOut.oneLine _ List.mem_cons_self
      have others := induction laidOut.tail
        (before + run.length + piece.text.length)
      rw [Row.text, List.flatMap_cons, ← Row.text, List.append_assoc]
      apply Passes.separators isRun.separators
      rw [isRun.columnAfter]
      have next : columnAfter (1 + (before + run.length)) piece.text =
          1 + (before + run.length + piece.text.length) := by
        rw [columnAfter_eq _ oneLine, Nat.add_assoc]
      rw [← next] at others
      cases laidOut.legible _ List.mem_cons_self with
      | word own => exact .word own (laidOut.head trails) others
      | literal spelled => exact .literal spelled others

theorem scanFrom_row {row : Row} (laidOut : row.LaidOut) {trail : List Char}
    (trails : Trails trail) (before : Nat) :
    scanFrom (1 + before) (row.text ++ trail) = .ok (row.tokens before) := by
  rw [(laidOut.passes trails before).scanFrom, trails.scanFrom, Except.map,
    List.append_nil]

end TealTools.Token

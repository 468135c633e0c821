import TealTools.Text.Blank
import TealTools.Text.Split

/-!
# Pieces of a text

A text falls into the pieces that it is put together from, as long as no piece
holds the separator, and blanks around a text are dropped.
-/

namespace TealTools.Text

/-! ## Separators -/

theorem split_of_not_mem {α : Type} [DecidableEq α] {separator : α}
    {piece : List α} (free : separator ∉ piece) :
    split separator piece = [piece] := by
  induction piece with
  | nil => rfl
  | cons item piece induction =>
      rw [List.mem_cons, not_or] at free
      rw [split, if_neg (Ne.symm free.1), induction free.2]

theorem split_append_cons {α : Type} [DecidableEq α] {separator : α}
    {piece : List α} (free : separator ∉ piece) (rest : List α) :
    split separator (piece ++ separator :: rest) =
      piece :: split separator rest := by
  induction piece with
  | nil => rw [List.nil_append, split, if_pos rfl]
  | cons item piece induction =>
      rw [List.mem_cons, not_or] at free
      rw [List.cons_append, split, if_neg (Ne.symm free.1), induction free.2]

/-! ## Blanks -/

private theorem dropWhile_isBlank_of_head {text : List Char}
    (first : ∀ c ∈ text.head?, isBlank c = false) :
    text.dropWhile isBlank = text := by
  cases text with
  | nil => rfl
  | cons c rest =>
      rw [List.dropWhile_cons_of_neg (by simp [first c rfl])]

theorem trimEnd_append {text blanks : List Char}
    (last : ∀ c ∈ text.getLast?, isBlank c = false)
    (blank : ∀ c ∈ blanks, isBlank c = true) :
    trimEnd (text ++ blanks) = text := by
  have behind : ∀ c ∈ blanks.reverse, isBlank c = true :=
    fun c member => blank c (List.mem_reverse.mp member)
  have solid : ∀ c ∈ text.reverse.head?, isBlank c = false := by
    rw [List.head?_reverse]
    exact last
  rw [trimEnd, List.reverse_append, List.dropWhile_append_of_pos behind,
    dropWhile_isBlank_of_head solid, List.reverse_reverse]

/-- What begins and ends with something else is left between blanks. -/
theorem trim_append {before core after : List Char}
    (leading : ∀ c ∈ before, isBlank c = true)
    (first : ∀ c ∈ core.head?, isBlank c = false)
    (last : ∀ c ∈ core.getLast?, isBlank c = false)
    (trailing : ∀ c ∈ after, isBlank c = true) :
    trim (before ++ core ++ after) = core := by
  have dropped : (before ++ core ++ after).dropWhile isBlank =
      (core ++ after).dropWhile isBlank := by
    rw [List.append_assoc, List.dropWhile_append_of_pos leading]
  cases core with
  | nil =>
      have nothing : ([] ++ after).dropWhile isBlank = [] := by
        have all := @List.dropWhile_append_of_pos _ isBlank after [] trailing
        rw [List.append_nil] at all
        exact all
      rw [trim, dropped, nothing]
      rfl
  | cons c rest =>
      have kept : (c :: rest ++ after).dropWhile isBlank =
          c :: rest ++ after :=
        dropWhile_isBlank_of_head first
      rw [trim, dropped, kept]
      exact trimEnd_append last trailing

theorem trim_append_of_free {before word : List Char}
    (leading : ∀ c ∈ before, isBlank c = true)
    (free : ∀ c ∈ word, isBlank c = false) : trim (before ++ word) = word := by
  have whole := @trim_append before word [] leading
    (fun c first => free c (List.mem_of_mem_head? first))
    (fun c last => free c (List.mem_of_mem_getLast? last)) nofun
  rw [List.append_nil] at whole
  exact whole

theorem exists_blanks_around_trim (text : List Char) :
    ∃ before after, text = before ++ trim text ++ after ∧
      (∀ c ∈ before, isBlank c = true) ∧ ∀ c ∈ after, isBlank c = true := by
  have blanks : ∀ {text : List Char} {c : Char},
      c ∈ text.takeWhile isBlank → isBlank c = true :=
    fun member => List.all_eq_true.mp List.all_takeWhile _ member
  refine ⟨text.takeWhile isBlank,
    ((text.dropWhile isBlank).reverse.takeWhile isBlank).reverse, ?_,
    fun _ => blanks, fun _ member => blanks (List.mem_reverse.mp member)⟩
  rw [trim, List.append_assoc, ← List.reverse_append,
    List.takeWhile_append_dropWhile, List.reverse_reverse,
    List.takeWhile_append_dropWhile]

end TealTools.Text

import Mathlib.Data.List.Basic
import Mathlib.Logic.Basic

/-!
# Entries that are looked up by key

The first entry of a key counts.  Entries that are dropped by their key change
nothing about the other keys.
-/

namespace TealTools.Entries

variable {κ α : Type} [DecidableEq κ]

theorem lookup_cons (key other : κ) (value : α) (entries : List (κ × α)) :
    ((key, value) :: entries).lookup other =
      if other = key then some value else entries.lookup other := by
  by_cases same : other = key
  · rw [if_pos same, same, List.lookup_cons_self]
  · rw [if_neg same, List.lookup_cons, beq_false_of_ne same]

theorem lookup_isSome_iff {entries : List (κ × α)} {key : κ} :
    (entries.lookup key).isSome ↔ key ∈ entries.map (·.1) := by
  rw [Option.isSome_iff_ne_none, ne_eq, List.lookup_eq_none_iff]
  simp

theorem lookup_of_mem {entries : List (κ × α)} {key : κ} {value : α}
    (distinct : (entries.map (·.1)).Nodup) (member : (key, value) ∈ entries) :
    entries.lookup key = some value := by
  obtain ⟨front, back, rfl⟩ := List.append_of_mem member
  rw [List.map_append, List.nodup_append] at distinct
  refine List.lookup_eq_some_iff.mpr ⟨front, back, rfl, ?_⟩
  intro other early
  have := distinct.2.2 other.1 (List.mem_map_of_mem early) key
    List.mem_cons_self
  simpa using this.symm

theorem lookup_filter_ne (key other : κ) (entries : List (κ × α)) :
    (entries.filter fun entry => entry.1 ≠ key).lookup other =
      if other = key then none else entries.lookup other := by
  induction entries with
  | nil => rw [List.filter_nil, List.lookup_nil, ite_self]
  | cons entry entries induction =>
      obtain ⟨own, value⟩ := entry
      by_cases dropped : own = key
      · rw [List.filter_cons_of_neg (by simp [dropped]), induction,
          lookup_cons, dropped]
        by_cases same : other = key
        · rw [if_pos same, if_pos same]
        · rw [if_neg same, if_neg same, if_neg same]
      · rw [List.filter_cons_of_pos (by simp [dropped]), lookup_cons,
          lookup_cons, induction]
        by_cases same : other = own
        · simp [same, dropped]
        · rw [if_neg same, if_neg same]

end TealTools.Entries

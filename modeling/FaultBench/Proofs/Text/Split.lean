import FaultBench.Text.Search
import Mathlib.Tactic

/-!
# Texts in pieces

A text is cut at every occurrence of a character, and nowhere else. Pieces that do not hold the
character are what a text is cut into in which the character stands behind each of them
(`splitOn_flatMap`).
-/

namespace FaultBench.Text

variable {sep : Char} {s t : List Char}

theorem splitOn_ne_nil : splitOn sep s ≠ [] := by
  cases s with
  | nil => simp [splitOn]
  | cons c s =>
      rw [splitOn]
      split
      · simp
      · split <;> simp

/-- A text is cut at an occurrence of `sep`. -/
theorem splitOn_append_cons : splitOn sep (s ++ sep :: t) = splitOn sep s ++ splitOn sep t := by
  induction s with
  | nil => simp [splitOn]
  | cons c s ih =>
      rw [List.cons_append, splitOn, splitOn, ih]
      split
      · rfl
      · cases hSplit : splitOn sep s with
        | nil => exact absurd hSplit splitOn_ne_nil
        | cons first others => rfl

/-- A text is not cut where `sep` does not occur. -/
theorem splitOn_eq_singleton (h : sep ∉ s) : splitOn sep s = [s] := by
  induction s with
  | nil => rfl
  | cons c s ih =>
      rw [List.mem_cons, not_or] at h
      have hOther : (c == sep) = false := beq_false_of_ne (Ne.symm h.1)
      rw [splitOn, ih h.2]
      simp [hOther]

/-- What a text is cut into is made of its characters. -/
theorem subset_of_mem_splitOn (h : t ∈ splitOn sep s) : t ⊆ s := by
  induction s generalizing t with
  | nil =>
      rw [List.mem_singleton.mp h]
      exact List.Subset.refl _
  | cons c s ih =>
      rw [splitOn] at h
      split at h
      · rcases List.mem_cons.mp h with rfl | hRest
        · exact List.nil_subset _
        · exact List.subset_cons_of_subset _ (ih hRest)
      · split at h
        · rw [List.mem_singleton.mp h]
          exact List.cons_subset_cons c (List.nil_subset s)
        next first others hSplit =>
          rcases List.mem_cons.mp h with rfl | hRest
          · exact List.cons_subset_cons c (ih (hSplit ▸ List.mem_cons_self))
          · exact List.subset_cons_of_subset _ (ih (hSplit ▸ List.mem_cons_of_mem _ hRest))

theorem not_mem_of_mem_splitOn (h : t ∈ splitOn sep s) : sep ∉ t := by
  induction s generalizing t with
  | nil =>
      rw [List.mem_singleton.mp h]
      exact List.not_mem_nil
  | cons c s ih =>
      rw [splitOn] at h
      split at h
      · rcases List.mem_cons.mp h with rfl | h
        · exact List.not_mem_nil
        · exact ih h
      next hOther =>
        have hc : sep ≠ c := fun hEq => hOther (beq_iff_eq.mpr hEq.symm)
        cases hSplit : splitOn sep s with
        | nil => exact absurd hSplit splitOn_ne_nil
        | cons first others =>
            rw [hSplit] at h ih
            rcases List.mem_cons.mp h with rfl | h
            · simpa [hc] using ih List.mem_cons_self
            · exact ih (List.mem_cons_of_mem first h)

/-- Pieces, each with `sep` behind it, are what a text is cut into. -/
theorem splitOn_flatMap {pieces : List (List Char)} (h : ∀ piece ∈ pieces, sep ∉ piece)
    (t : List Char) :
    splitOn sep (pieces.flatMap (· ++ [sep]) ++ t) = pieces ++ splitOn sep t := by
  induction pieces with
  | nil => rfl
  | cons piece pieces ih =>
      obtain ⟨hPiece, hPieces⟩ := List.forall_mem_cons.mp h
      rw [List.flatMap_cons, List.append_assoc, List.append_assoc, List.singleton_append,
        splitOn_append_cons, splitOn_eq_singleton hPiece, ih hPieces]
      rfl

end FaultBench.Text

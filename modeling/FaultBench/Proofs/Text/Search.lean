import FaultBench.Text.Search
import Mathlib.Data.List.Infix
import Mathlib.Order.Bounds.Basic

/-!
# Occurrences of texts

A text is found if and only if it occurs (`exists_find?_iff`), and where it occurs first
(`find?_eq_some_iff`). A text that lies on one line does not occur across the end of a line
(`infix_append_cons_iff`).
-/

namespace FaultBench.Text

theorem exists_find?_iff {pat s : List Char} : (∃ i, find? pat s = some i) ↔ pat <:+: s := by
  induction s with
  | nil => simp [find?]
  | cons c s ih =>
      rw [List.infix_cons_iff, find?, ← List.isPrefixOf_iff_prefix, ← ih]
      split
      next hHere => simp [hHere]
      next hNotHere => simp [hNotHere]

theorem find?_eq_none_iff {pat s : List Char} : find? pat s = none ↔ ¬ pat <:+: s := by
  rw [← exists_find?_iff, Option.eq_none_iff_forall_ne_some, not_exists]

theorem find?_eq_some_iff {pat s : List Char} {i : Nat} :
    find? pat s = some i ↔ IsLeast {i | pat <+: s.drop i} i := by
  have hFirst {S : Set Nat} (hZero : 0 ∈ S) (j : Nat) : some 0 = some j ↔ IsLeast S j := by
    have hLeast : IsLeast S 0 := ⟨hZero, fun _ _ => Nat.zero_le _⟩
    rw [Option.some_inj]
    exact ⟨fun hEq => hEq ▸ hLeast, fun hOther => hLeast.unique hOther⟩
  induction s generalizing i with
  | nil =>
      cases pat with
      | nil => exact hFirst (List.prefix_refl []) i
      | cons c pat =>
          refine iff_of_false (by simp [find?]) ?_
          rintro ⟨hHere, -⟩
          simp at hHere
  | cons c s ih =>
      rw [find?]
      split
      next hHere => exact hFirst (List.isPrefixOf_iff_prefix.mp hHere) i
      next hNotHere =>
        rw [List.isPrefixOf_iff_prefix] at hNotHere
        cases i with
        | zero => exact iff_of_false (by simp) (fun hLeast => hNotHere hLeast.1)
        | succ i =>
            simp only [Option.map_eq_some_iff, Nat.add_right_cancel_iff, exists_eq_right, ih]
            constructor
            · rintro ⟨hHere, hLeast⟩
              refine ⟨hHere, fun j hj => ?_⟩
              cases j with
              | zero => exact absurd hj hNotHere
              | succ j => exact Nat.succ_le_succ (hLeast hj)
            · rintro ⟨hHere, hLeast⟩
              refine ⟨hHere, fun j hj => ?_⟩
              have hNext : j + 1 ∈ {i | pat <+: (c :: s).drop i} := hj
              exact Nat.le_of_succ_le_succ (hLeast hNext)

/-- Where `sep` stands between two texts, a text without it occurs in one of the two or not at
all. -/
theorem infix_append_cons_iff {sep : Char} {pat s t : List Char} (h : sep ∉ pat) :
    pat <:+: s ++ sep :: t ↔ pat <:+: s ∨ pat <:+: t := by
  rw [List.infix_append_iff, List.infix_cons_iff]
  constructor
  · rintro (hLeft | (hHere | hRight) | ⟨left, right, rfl, hLeft, hRight⟩)
    · exact .inl hLeft
    · -- An occurrence that begins with `sep` is empty.
      rcases List.prefix_cons_iff.mp hHere with rfl | ⟨rest, rfl, -⟩
      · exact .inl (List.nil_infix)
      · exact absurd List.mem_cons_self h
    · exact .inr hRight
    · -- What lies behind the end of `s` would begin with `sep`.
      rcases List.prefix_cons_iff.mp hRight with rfl | ⟨rest, rfl, -⟩
      · rw [List.append_nil]
        exact .inl hLeft.isInfix
      · exact absurd (List.mem_append_right left List.mem_cons_self) h
  · rintro (hLeft | hRight)
    · exact .inl hLeft
    · exact .inr (.inl (.inr hRight))

end FaultBench.Text

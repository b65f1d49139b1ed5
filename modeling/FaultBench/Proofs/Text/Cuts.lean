import Mathlib.Data.List.TakeWhile
import Mathlib.Data.List.Basic

/-!
# Cuts of texts

A text can be cut at a character in as many ways as it holds that character: from the first of them
every other one is reached by going on behind it (`append_cons_cases`). A run of characters ends where
the first one follows that does not belong to it (`takeWhile_append_cons`).
-/

namespace FaultBench.Text

variable {c : Char} {x y s t : List Char}

/-- A text that is cut at its first `c` and also in another way is cut at the same place, or the
other one lies behind it. -/
theorem append_cons_cases (hx : c ∉ x) (h : x ++ c :: s = y ++ c :: t) :
    (x = y ∧ s = t) ∨ ∃ z, y = x ++ c :: z ∧ s = z ++ c :: t := by
  rcases List.append_eq_append_iff.mp h with ⟨more, rfl, hRest⟩ | ⟨more, rfl, hRest⟩
  · cases more with
    | nil => exact .inl ⟨(List.append_nil x).symm, (List.cons.inj hRest).2⟩
    | cons d z =>
        obtain ⟨rfl, hBehind⟩ := List.cons.inj hRest
        exact .inr ⟨z, rfl, hBehind⟩
  · cases more with
    | nil => exact .inl ⟨List.append_nil y, (List.cons.inj hRest).2.symm⟩
    | cons d z =>
        -- The other cut would lie in `x`.
        obtain ⟨rfl, -⟩ := List.cons.inj hRest
        exact absurd (List.mem_append_right y List.mem_cons_self) hx

/-- Two texts that are cut at their first `c` are equal in both parts. -/
theorem append_cons_inj (hx : c ∉ x) (hy : c ∉ y) (h : x ++ c :: s = y ++ c :: t) :
    x = y ∧ s = t := by
  rcases append_cons_cases hx h with hSame | ⟨z, rfl, -⟩
  · exact hSame
  · exact absurd (List.mem_append_right x List.mem_cons_self) hy

/-- What follows a word. -/
theorem drop_length_append (w : String) (t : List Char) : (w.toList ++ t).drop w.length = t :=
  List.drop_left' rfl

variable {p : Char → Bool}

theorem takeWhile_append_cons (hx : ∀ d ∈ x, p d = true) (hc : p c = false) :
    (x ++ c :: s).takeWhile p = x := by
  rw [List.takeWhile_append_of_pos hx, List.takeWhile_cons_of_neg (by simp [hc]), List.append_nil]

theorem dropWhile_append_cons (hx : ∀ d ∈ x, p d = true) (hc : p c = false) :
    (x ++ c :: s).dropWhile p = c :: s := by
  rw [List.dropWhile_append_of_pos hx, List.dropWhile_cons_of_neg (by simp [hc])]

end FaultBench.Text

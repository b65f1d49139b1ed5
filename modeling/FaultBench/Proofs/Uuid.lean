import FaultBench.Uuid
import Mathlib.Tactic

/-!
# Unique ids, written and read

A unique id is read back from its digits in groups: `ofString?_text`.
-/

namespace FaultBench.Uuid

theorem digit?_digitChar : ∀ d : Fin 16, digit? (digitChar d) = some d := by
  decide

theorem mapM_digit? (ds : List (Fin 16)) : (ds.map digitChar).mapM digit? = some ds := by
  induction ds with
  | nil => rfl
  | cons d ds ih => simp [digit?_digitChar, ih]

theorem length_groups (ns : List Nat) (s : List Char) :
    (groups ns s).length = s.length + ns.length := by
  induction ns generalizing s with
  | nil => rfl
  | cons n ns ih =>
      simp only [groups, List.length_append, List.length_cons, List.length_take, ih,
        List.length_drop]
      omega

/-- The hyphens are found again where each group has all its digits. -/
theorem joinGroups?_groups {ns : List Nat} {s : List Char} (h : ns.sum ≤ s.length) :
    joinGroups? ns (groups ns s) = some s := by
  induction ns generalizing s with
  | nil => rfl
  | cons n ns ih =>
      rw [List.sum_cons] at h
      have hTaken : (s.take n).length = n := List.length_take_of_le (by omega)
      have hRest := ih (s := s.drop n) (by rw [List.length_drop]; omega)
      rw [groups, joinGroups?, List.drop_left' hTaken]
      simp only [hRest, List.take_left' hTaken, Option.map_some, List.take_append_drop]

/-- **Unique ids are read back** from their texts. -/
theorem ofString?_text (u : Uuid) : ofString? u.text = some u := by
  have hDigits : (u.digits.map digitChar).length = 32 := by rw [List.length_map, u.length_eq]
  have hLength : u.chars.length = 36 := by
    rw [chars, length_groups, hDigits]
    rfl
  have hJoined : joinGroups? [8, 4, 4, 4] u.chars = some (u.digits.map digitChar) :=
    joinGroups?_groups (by simp [hDigits])
  have hRead : ofGroups? u.chars = some u := by
    rw [ofGroups?, hJoined, Option.bind_some, ofDigits?, mapM_digit?]
    exact dif_pos u.length_eq
  rw [ofString?, text, String.toList_ofList, if_neg (by omega), if_pos hLength, hRead]

end FaultBench.Uuid

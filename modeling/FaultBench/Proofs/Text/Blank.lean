import FaultBench.Text.Blank
import Mathlib.Data.List.Infix
import Mathlib.Data.List.TakeWhile

/-!
# Trimmed texts

A text is trimmed if no blank stands at its ends. `trim` makes a text trimmed, and of what occurs
in it without blanks at its own ends nothing is lost (`infix_trim`). Only blanks are removed, so
that a trimmed text stays as it is and blanks that are put around a text make no difference
(`trim_eq_iff`, `trim_append`).
-/

namespace FaultBench.Text

/-- No blank stands at an end of the text. -/
structure Trimmed (s : List Char) : Prop where
  head {c : Char} : s.head? = some c → isBlank c = false
  last {c : Char} : s.getLast? = some c → isBlank c = false

theorem isBlank_of_head?_trimStart {s : List Char} {c : Char} (h : (trimStart s).head? = some c) :
    isBlank c = false := by
  have hNot := List.head?_dropWhile_not isBlank s
  rw [trimStart] at h
  rwa [h] at hNot

theorem reverse_trimEnd (s : List Char) : (trimEnd s).reverse = trimStart s.reverse :=
  List.reverse_reverse _

theorem isBlank_of_getLast?_trimEnd {s : List Char} {c : Char}
    (h : (trimEnd s).getLast? = some c) : isBlank c = false := by
  rw [List.getLast?_eq_head?_reverse, reverse_trimEnd] at h
  exact isBlank_of_head?_trimStart h

theorem isPrefix_trimEnd (s : List Char) : trimEnd s <+: s := by
  rw [← List.reverse_suffix, reverse_trimEnd]
  exact List.dropWhile_suffix isBlank

theorem trim_infix (s : List Char) : trim s <:+: s :=
  (isPrefix_trimEnd _).isInfix.trans (List.dropWhile_suffix isBlank).isInfix

theorem trimmed_trim (s : List Char) : Trimmed (trim s) where
  head {c} h := by
    apply isBlank_of_head?_trimStart (s := s)
    obtain ⟨rest, hRest⟩ := isPrefix_trimEnd (trimStart s)
    have hHead : (trimEnd (trimStart s)).head? = some c := h
    rw [← hRest, List.head?_append, hHead, Option.some_or]
  last := isBlank_of_getLast?_trimEnd

theorem trimStart_eq_nil_iff {s : List Char} : trimStart s = [] ↔ isBlankText s = true := by
  rw [trimStart, List.dropWhile_eq_nil_iff, isBlankText, List.all_eq_true]

theorem trimEnd_eq_nil_iff {s : List Char} : trimEnd s = [] ↔ isBlankText s = true := by
  rw [← List.reverse_eq_nil_iff, reverse_trimEnd, trimStart_eq_nil_iff, isBlankText, isBlankText,
    List.all_reverse]

theorem trim_eq_nil_iff {s : List Char} : trim s = [] ↔ isBlankText s = true := by
  rw [trim, trimEnd_eq_nil_iff, ← trimStart_eq_nil_iff (s := s)]
  constructor
  · intro hBlank
    by_contra hNe
    obtain ⟨c, rest, hCons⟩ := List.exists_cons_of_ne_nil hNe
    have hHead : isBlank c = false := isBlank_of_head?_trimStart (s := s) (by rw [hCons]; rfl)
    rw [hCons, isBlankText, List.all_cons, hHead] at hBlank
    cases hBlank
  · intro hNil
    rw [hNil]
    rfl

theorem Trimmed.not_blank {s : List Char} (h : Trimmed s) (hNe : s ≠ []) :
    isBlankText s = false := by
  obtain ⟨c, rest, rfl⟩ := List.exists_cons_of_ne_nil hNe
  rw [isBlankText, List.all_cons, h.head rfl, Bool.false_and]

/-- What does not begin with a blank is not lost where leading blanks are removed. -/
theorem infix_trimStart {pat s : List Char} (h : ∀ c, pat.head? = some c → isBlank c = false)
    (hOccurs : pat <:+: s) : pat <:+: trimStart s := by
  cases pat with
  | nil => exact List.nil_infix
  | cons c pat =>
      obtain ⟨front, back, rfl⟩ := hOccurs
      have hStay : trimStart (c :: (pat ++ back)) = c :: (pat ++ back) :=
        List.dropWhile_cons_of_neg (by simp [h c rfl])
      rw [trimStart, List.append_assoc, List.dropWhile_append]
      split
      · exact ⟨[], back, by rw [List.nil_append]; exact hStay.symm⟩
      · exact ⟨front.dropWhile isBlank, back, List.append_assoc _ _ _⟩

/-- What has no blanks at its ends is not lost where those at the ends of a text are removed. -/
theorem infix_trim {pat s : List Char} (h : Trimmed pat) (hOccurs : pat <:+: s) :
    pat <:+: trim s := by
  have hStart : pat <:+: trimStart s := infix_trimStart (fun _ hc => h.head hc) hOccurs
  rw [← List.reverse_infix, trim, reverse_trimEnd]
  apply infix_trimStart
  · intro c hc
    exact h.last (by rwa [List.getLast?_eq_head?_reverse])
  · exact List.reverse_infix.mpr hStart

/-! ## What is removed -/

variable {s t before after : List Char}

theorem Trimmed.reverse (h : Trimmed t) : Trimmed t.reverse where
  head hc := h.last (by rwa [List.getLast?_eq_head?_reverse])
  last hc := h.head (by rwa [List.getLast?_reverse] at hc)

theorem Trimmed.trimStart_eq (h : Trimmed t) : trimStart t = t := by
  cases t with
  | nil => rfl
  | cons c rest => exact List.dropWhile_cons_of_neg (by simp [h.head rfl])

theorem Trimmed.trimEnd_eq (h : Trimmed t) : trimEnd t = t := by
  rw [← List.reverse_inj, reverse_trimEnd, h.reverse.trimStart_eq]

theorem Trimmed.trim_eq (h : Trimmed t) : trim t = t := by
  rw [trim, h.trimStart_eq, h.trimEnd_eq]

theorem trimStart_append (h : isBlankText before = true) : trimStart (before ++ s) = trimStart s :=
  List.dropWhile_append_of_pos (List.all_eq_true.mp h)

theorem trimEnd_append (h : isBlankText after = true) : trimEnd (s ++ after) = trimEnd s := by
  have hReverse : isBlankText after.reverse = true := by rwa [isBlankText, List.all_reverse]
  rw [← List.reverse_inj, reverse_trimEnd, reverse_trimEnd, List.reverse_append,
    trimStart_append hReverse]

/-- Blanks around a text make no difference. -/
theorem trim_append (hBefore : isBlankText before = true) (hAfter : isBlankText after = true) :
    trim (before ++ s ++ after) = trim s := by
  rw [List.append_assoc, trim, trimStart_append hBefore]
  by_cases hs : isBlankText s = true
  · -- There is no character at which the blanks in front could end.
    have hAll : isBlankText (s ++ after) = true := by
      rw [isBlankText, List.all_append, Bool.and_eq_true]
      exact ⟨hs, hAfter⟩
    rw [trimStart_eq_nil_iff.mpr hAll, trim_eq_nil_iff.mpr hs]
    rfl
  · have hStart : (s.dropWhile isBlank).isEmpty = false :=
      List.isEmpty_eq_false_iff.mpr fun hNil => hs (trimStart_eq_nil_iff.mp hNil)
    have hApart : trimStart (s ++ after) = trimStart s ++ after := by
      rw [trimStart, List.dropWhile_append, hStart]
      rfl
    rw [hApart, trimEnd_append hAfter, trim]

/-- What is left of `s` without the blanks at its ends is `t`. -/
structure TrimsTo (s t : List Char) : Prop where
  trimmed : Trimmed t
  within : ∃ before after, s = before ++ t ++ after ∧ isBlankText before = true ∧
    isBlankText after = true

theorem exists_append_trimStart (s : List Char) :
    ∃ before, s = before ++ trimStart s ∧ isBlankText before = true :=
  ⟨s.takeWhile isBlank, List.takeWhile_append_dropWhile.symm,
    List.all_eq_true.mpr fun _ hc => List.mem_takeWhile_imp hc⟩

theorem exists_trimEnd_append (s : List Char) :
    ∃ after, s = trimEnd s ++ after ∧ isBlankText after = true := by
  obtain ⟨before, hParts, hBlank⟩ := exists_append_trimStart s.reverse
  refine ⟨before.reverse, ?_, by rwa [isBlankText, List.all_reverse]⟩
  rw [← List.reverse_inj, List.reverse_append, List.reverse_reverse, reverse_trimEnd]
  exact hParts

theorem trim_eq_iff : trim s = t ↔ TrimsTo s t := by
  constructor
  · rintro rfl
    obtain ⟨before, hStart, hBefore⟩ := exists_append_trimStart s
    obtain ⟨after, hEnd, hAfter⟩ := exists_trimEnd_append (trimStart s)
    refine ⟨trimmed_trim s, before, after, ?_, hBefore, hAfter⟩
    rw [List.append_assoc, trim, ← hEnd]
    exact hStart
  · rintro ⟨hTrimmed, before, after, rfl, hBefore, hAfter⟩
    rw [trim_append hBefore hAfter, hTrimmed.trim_eq]

end FaultBench.Text

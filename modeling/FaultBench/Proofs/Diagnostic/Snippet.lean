import FaultBench.Diagnostic.Sanitizer
import FaultBench.Proofs.Text.Blank

/-!
# Snippets are excerpts

A snippet of a text on one line is fit for a row of a report (`isExcerpt_snippet`), and it is empty
only if the text is blank (`snippet_eq_nil_iff`). It is a normal form of the text, which is not cut
again and does not depend on the blanks around it (`snippet_normal`).
-/

namespace FaultBench

/-- The text is short, on one line, and has no blanks at its ends. -/
structure IsExcerpt (s : List Char) : Prop where
  length_le : s.length ≤ 200
  oneLine : '\n' ∉ s
  trimmed : Text.Trimmed s

theorem snippet_of_length_le {s : List Char} (h : (Text.trim s).length ≤ maxSnippet) :
    snippet s = Text.trim s := if_pos h

theorem snippet_of_lt_length {s : List Char} (h : maxSnippet < (Text.trim s).length) :
    snippet s = (Text.trim s).take (maxSnippet - 1) ++ [ellipsis] := if_neg (Nat.not_le_of_lt h)

theorem length_snippet_le (s : List Char) : (snippet s).length ≤ 200 := by
  by_cases hShort : (Text.trim s).length ≤ maxSnippet
  · rw [snippet_of_length_le hShort]
    exact hShort
  · rw [snippet_of_lt_length (Nat.lt_of_not_le hShort), List.length_append, List.length_take]
    simp only [maxSnippet, List.length_singleton]
    omega

/-- What was cut is as long as a snippet may be. -/
theorem length_trim_le {s : List Char} (h : (snippet s).length < 200) :
    (Text.trim s).length ≤ 200 := by
  by_contra hLong
  have hCut : maxSnippet < (Text.trim s).length := Nat.lt_of_not_le hLong
  rw [snippet_of_lt_length hCut, List.length_append, List.length_take] at h
  simp only [maxSnippet, List.length_singleton] at h hCut
  omega

theorem mem_of_mem_snippet {s : List Char} {c : Char} (h : c ∈ snippet s) :
    c ∈ s ∨ c = ellipsis := by
  have hMem {d : Char} (hd : d ∈ Text.trim s) : d ∈ s := (Text.trim_infix s).mem hd
  by_cases hShort : (Text.trim s).length ≤ maxSnippet
  · rw [snippet_of_length_le hShort] at h
    exact .inl (hMem h)
  · rw [snippet_of_lt_length (Nat.lt_of_not_le hShort)] at h
    rcases List.mem_append.mp h with hTaken | hEnd
    · exact .inl (hMem (List.mem_of_mem_take hTaken))
    · exact .inr (List.mem_singleton.mp hEnd)

theorem trimmed_snippet (s : List Char) : Text.Trimmed (snippet s) := by
  by_cases hShort : (Text.trim s).length ≤ maxSnippet
  · rw [snippet_of_length_le hShort]
    exact Text.trimmed_trim s
  · rw [snippet_of_lt_length (Nat.lt_of_not_le hShort)]
    constructor
    · -- The cut is behind the first character.
      intro c hc
      apply (Text.trimmed_trim s).head
      obtain ⟨d, rest, hCons⟩ := List.exists_cons_of_ne_nil
        (List.ne_nil_of_length_pos (Nat.lt_of_le_of_lt (Nat.zero_le _) (Nat.lt_of_not_le hShort)))
      rw [hCons] at hc ⊢
      exact hc
    · intro c hc
      rw [List.getLast?_concat, Option.some_inj] at hc
      rw [← hc]
      rfl

theorem snippet_eq_nil_iff {s : List Char} : snippet s = [] ↔ Text.isBlankText s = true := by
  rw [← Text.trim_eq_nil_iff]
  by_cases hShort : (Text.trim s).length ≤ maxSnippet
  · rw [snippet_of_length_le hShort]
  · rw [snippet_of_lt_length (Nat.lt_of_not_le hShort)]
    refine iff_of_false (List.concat_ne_nil _ _) ?_
    intro hNil
    rw [hNil] at hShort
    exact hShort (Nat.zero_le _)

theorem isExcerpt_snippet {s : List Char} (h : '\n' ∉ s) : IsExcerpt (snippet s) where
  length_le := length_snippet_le s
  oneLine hMem := by
    rcases mem_of_mem_snippet hMem with hText | hEllipsis
    · exact h hText
    · exact absurd hEllipsis (by decide)
  trimmed := trimmed_snippet s

/-! ## Normal forms -/

/-- A snippet says no more of a text than is left of it without the blanks at its ends. -/
theorem snippet_congr {s s' : List Char} (h : Text.trim s = Text.trim s') :
    snippet s = snippet s' := by
  unfold snippet
  rw [h]

/-- What is trimmed and not too long is its own snippet. -/
theorem snippet_of_trimmed {t : List Char} (h : Text.Trimmed t) (hShort : t.length ≤ 200) :
    snippet t = t := by
  have hTrim : Text.trim t = t := h.trim_eq
  have hLength : (Text.trim t).length ≤ maxSnippet := by rwa [hTrim]
  rw [snippet_of_length_le hLength, hTrim]

/-- **Snippets are normal forms.** A text has one form without blanks at its ends. Its snippet is that
form, if it has at most 200 characters, or else the first 199 of them with an ellipsis. So a snippet is
never longer than that, it is its own snippet, and blanks around a text make no difference to it. -/
theorem snippet_normal (s : List Char) :
    (∃! t, Text.TrimsTo s t) ∧
    (∀ t, Text.TrimsTo s t →
      (t.length ≤ 200 → snippet s = t) ∧ (200 < t.length → snippet s = t.take 199 ++ ['…'])) ∧
    (snippet s).length ≤ 200 ∧
    snippet (snippet s) = snippet s ∧
    ∀ before after, Text.isBlankText before = true → Text.isBlankText after = true →
      snippet (before ++ s ++ after) = snippet s := by
  refine ⟨⟨Text.trim s, Text.trim_eq_iff.mp rfl, fun t h => (Text.trim_eq_iff.mpr h).symm⟩, ?_,
    length_snippet_le s, snippet_of_trimmed (trimmed_snippet s) (length_snippet_le s), ?_⟩
  · intro t h
    obtain rfl := Text.trim_eq_iff.mpr h
    exact ⟨fun hShort => snippet_of_length_le hShort, fun hLong => snippet_of_lt_length hLong⟩
  · intro before after hBefore hAfter
    exact snippet_congr (Text.trim_append hBefore hAfter)

/-- A text of 201 characters with a blank where it is cut. -/
def blankAtCut : List Char := List.replicate 198 'é' ++ " ab".toList

theorem snippet_normal_blankAtCut :
    Text.TrimsTo blankAtCut blankAtCut ∧ 200 < blankAtCut.length ∧
      snippet blankAtCut = List.replicate 198 'é' ++ " …".toList ∧
      snippet ("\u3000\n".toList ++ blankAtCut ++ "\r\u0085".toList) = snippet blankAtCut ∧
      Text.TrimsTo (blankAtCut.drop 1 ++ ['\t']) (blankAtCut.drop 1) ∧
      snippet (blankAtCut.drop 1 ++ ['\t']) = blankAtCut.drop 1 := by
  have hSelf : Text.TrimsTo blankAtCut blankAtCut := Text.trim_eq_iff.mp (by decide +kernel)
  have hFits : Text.TrimsTo (blankAtCut.drop 1 ++ ['\t']) (blankAtCut.drop 1) :=
    Text.trim_eq_iff.mp (by decide +kernel)
  have hLong : 200 < blankAtCut.length := by decide +kernel
  obtain ⟨-, hCut, -, -, hAround⟩ := snippet_normal blankAtCut
  obtain ⟨-, hWhole, -⟩ := snippet_normal (blankAtCut.drop 1 ++ ['\t'])
  refine ⟨hSelf, hLong, ?_, hAround _ _ (by decide) (by decide), hFits, ?_⟩
  · rw [(hCut _ hSelf).2 hLong]
    decide +kernel
  · exact (hWhole _ hFits).1 (by decide +kernel)

end FaultBench

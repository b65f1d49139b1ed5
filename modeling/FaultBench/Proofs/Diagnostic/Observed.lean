import FaultBench.Proofs.Diagnostic.Headline
import FaultBench.Proofs.Diagnostic.Snippet

/-!
# What is taken from a report

What `describeObserved` shows is a snippet of something on one line of the text
(`exists_of_describeObserved`), and there is nothing to show only in a blank text
(`describeObserved_eq_none_iff`). The headlines of a text are looked for line by line, so one text
in front of another decides what is shown as soon as it has a headline
(`describeObserved_append`).
-/

namespace FaultBench

open Text

theorem exists_of_summaryLine? {text s : List Char} (h : summaryLine? text = some s) :
    ∃ line ∈ lines text, s <:+: line ∧ isBlankText s = false := by
  have hMem := List.mem_of_find?_eq_some h
  have hStart := List.find?_some h
  obtain ⟨line, hLine, rfl⟩ := List.mem_map.mp hMem
  refine ⟨line, hLine, trim_infix line, ?_⟩
  obtain ⟨rest, hRest⟩ := List.isPrefixOf_iff_prefix.mp hStart
  rw [← hRest]
  rfl

/-- What is shown of a text is a snippet of something on one of its lines that is not blank. -/
theorem exists_of_describeObserved {text t : List Char} (h : describeObserved text = some t) :
    ∃ line ∈ lines text, ∃ s, s <:+: line ∧ isBlankText s = false ∧ t = snippet s := by
  unfold describeObserved at h
  split at h
  next headline hFind =>
    cases h
    obtain ⟨line, hLine, hRead⟩ := List.exists_of_findSome?_eq_some hFind
    have hEnd := (Headline.title_suffix hRead).isInfix.trans (isPrefix_trimEnd line).isInfix
    exact ⟨line, hLine, _, hEnd, headline.isBlankText_title, rfl⟩
  next =>
    split at h
    next summary hSummary =>
      cases h
      obtain ⟨line, hLine, hInfix, hBlank⟩ := exists_of_summaryLine? hSummary
      exact ⟨line, hLine, summary, hInfix, hBlank, rfl⟩
    next =>
      obtain ⟨s, hLast, rfl⟩ := Option.map_eq_some_iff.mp h
      obtain ⟨hMem, hNe⟩ := List.mem_filter.mp (List.mem_of_getLast? hLast)
      obtain ⟨line, hLine, rfl⟩ := List.mem_map.mp hMem
      have hNotEmpty : trim line ≠ [] := by
        rintro hNil
        rw [hNil] at hNe
        cases hNe
      exact ⟨line, hLine, _, trim_infix line, (trimmed_trim line).not_blank hNotEmpty, rfl⟩

theorem describeObserved_eq_none_iff {text : List Char} :
    describeObserved text = none ↔ isBlankText text = true := by
  rw [← all_isBlankText_lines]
  constructor
  · intro hNone
    unfold describeObserved at hNone
    split at hNone
    next => cases hNone
    next =>
      split at hNone
      next => cases hNone
      next =>
        rw [Option.map_eq_none_iff, List.getLast?_eq_none_iff, List.filter_eq_nil_iff] at hNone
        rw [List.all_eq_true]
        intro line hLine
        have hEmpty := hNone (trim line) (List.mem_map_of_mem hLine)
        rw [← trim_eq_nil_iff]
        simpa using hEmpty
  · intro hBlank
    by_contra hSome
    obtain ⟨t, ht⟩ := Option.ne_none_iff_exists'.mp hSome
    obtain ⟨line, hLine, s, hInfix, hNotBlank, -⟩ := exists_of_describeObserved ht
    obtain ⟨c, hc, hVisible⟩ := List.all_eq_false.mp hNotBlank
    have hLineBlank := List.all_eq_true.mp hBlank line hLine
    exact hVisible (List.all_eq_true.mp hLineBlank c (hInfix.mem hc))

theorem isExcerpt_describeObserved {text t : List Char} (h : describeObserved text = some t) :
    IsExcerpt t ∧ t ≠ [] := by
  obtain ⟨line, hLine, s, hInfix, hNotBlank, rfl⟩ := exists_of_describeObserved h
  constructor
  · exact isExcerpt_snippet fun hFeed => not_mem_of_mem_lines hLine (hInfix.mem hFeed)
  · rw [Ne, snippet_eq_nil_iff, hNotBlank]
    exact Bool.false_ne_true

theorem describeObserved_of_find? {text : List Char} {h : Headline}
    (hFind : Headline.find? text = some h) : describeObserved text = some (snippet h.title) := by
  rw [describeObserved, hFind]
  rfl

/-- What follows a text with a headline does not change what is shown. -/
theorem describeObserved_append {s : List Char} {h : Headline} (hFind : Headline.find? s = some h)
    (t : List Char) : describeObserved (s ++ '\n' :: t) = describeObserved s := by
  have hBoth : Headline.find? (s ++ '\n' :: t) = some h := by
    rw [Headline.find?_append, hFind, Option.some_or]
  rw [describeObserved_of_find? hBoth, describeObserved_of_find? hFind]

end FaultBench

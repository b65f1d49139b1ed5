import FaultBench.Proofs.Text.Search
import FaultBench.Verdict.Judgement

/-!
# Two streams

A signature is looked for in what a program wrote to its two streams. A text on one line is found
there if and only if it occurs in one of the two: neither does it match across the seam between
them, nor does what is put there hide it. `judge_streams` says what this makes of a verdict.
-/

namespace FaultBench

/-- What is searched is one of the streams alone, or the errors without a line feed at their end, a
line feed, and the output. -/
theorem Run.diagnosticText_cases (r : Run) :
    (r.stderr.toList = [] ∧ r.diagnosticText = r.stdout.toList) ∨
    (r.stdout.toList = [] ∧ r.diagnosticText = r.stderr.toList) ∨
    ∃ front, (r.stderr.toList = front ∨ r.stderr.toList = front ++ ['\n']) ∧
      r.diagnosticText = front ++ '\n' :: r.stdout.toList := by
  unfold diagnosticText
  dsimp only
  generalize r.stderr.toList = errors
  generalize r.stdout.toList = output
  split
  next hJoined =>
    simp only [Bool.or_eq_true, List.isEmpty_iff, beq_iff_eq] at hJoined
    rcases hJoined with (rfl | rfl) | hFeed
    · exact .inl ⟨rfl, rfl⟩
    · exact .inr (.inl ⟨rfl, List.append_nil errors⟩)
    · obtain ⟨front, rfl⟩ := List.getLast?_eq_some_iff.mp hFeed
      exact .inr (.inr ⟨front, .inr rfl, List.append_assoc _ _ _⟩)
  next => exact .inr (.inr ⟨errors, .inl rfl, rfl⟩)

/-- A text on one line occurs in what is searched exactly if it occurs in one of the streams. -/
theorem Run.infix_diagnosticText_iff (r : Run) {pat : List Char} (h : '\n' ∉ pat) :
    pat <:+: r.diagnosticText ↔ pat <:+: r.stderr.toList ∨ pat <:+: r.stdout.toList := by
  have hNil {s : List Char} : pat <:+: [] → pat <:+: s := fun hEmpty =>
    List.infix_nil.mp hEmpty ▸ List.nil_infix
  rcases r.diagnosticText_cases with ⟨hErrors, hText⟩ | ⟨hOutput, hText⟩ | ⟨front, hErrors, hText⟩
  · rw [hText, hErrors, or_iff_right_of_imp hNil]
  · rw [hText, hOutput, or_iff_left_of_imp hNil]
  · rw [hText, Text.infix_append_cons_iff h]
    rcases hErrors with hSame | hFeed
    · rw [hSame]
    · -- The line feed that ends the errors keeps the streams apart.
      rw [hFeed, Text.infix_append_cons_iff h, or_iff_left_of_imp hNil]

namespace Verifier

variable {v : Verifier} {k : Kind}

/-- **No match across the seam of the streams.** -/
theorem judge_streams (hMode : v.override.getD k.signature.mode = .substring)
    (hLine : '\n' ∉ k.signature.pattern.toList) (r : Run) :
    let pattern := k.signature.pattern.toList
    let verdict := v.judge k (some (.ok r))
    (verdict.status = .pass ↔ pattern <:+: r.stderr.toList ∨ pattern <:+: r.stdout.toList) ∧
    (verdict.status = .fail ↔ ¬ (pattern <:+: r.stderr.toList ∨ pattern <:+: r.stdout.toList)) ∧
    verdict.exitCode = r.exitCode ∧ verdict.durationMs = some r.durationMs ∧
    verdict.programDigest = some r.program.digest := by
  dsimp only
  rw [← r.infix_diagnosticText_iff hLine, judge, judgeRun]
  dsimp only [blank]
  rw [hMode, MatchMode.find]
  cases hFind : Text.find? k.signature.pattern.toList r.diagnosticText with
  | none =>
      have hAbsent := Text.find?_eq_none_iff.mp hFind
      simp [hAbsent]
  | some i =>
      have hOccurs := Text.exists_find?_iff.mp ⟨i, hFind⟩
      simp [hOccurs]

/-- The text would be found if the streams were joined without a seam. -/
def tornRun : Run where
  program := .ofSource FaultClass.leak.canonicalId .leak {} ""
  exitCode := none
  signal := some 6
  stdout := "leaks\n"
  stderr := "\r\ndetected memory "
  compileStderr := ""
  durationMs := 7
  truncated := false

/-- The kind's own mode is another one. -/
def tornKind : Kind :=
  .ofClass FaultClass.leak.canonicalId .leak ⟨"detected memory leaks", .regex⟩

theorem judge_streams_torn :
    (Option.getD (some MatchMode.substring) tornKind.signature.mode) = .substring ∧
      '\n' ∉ tornKind.signature.pattern.toList ∧
      (judge ⟨some .substring⟩ tornKind (some (.ok tornRun))).status = .fail ∧
      (judge ⟨some .substring⟩ tornKind (some (.ok tornRun))).durationMs = some 7 := by
  have hLine : '\n' ∉ tornKind.signature.pattern.toList := by decide
  obtain ⟨-, hFail, -, hDuration, -⟩ :=
    judge_streams (v := ⟨some .substring⟩) (k := tornKind) rfl hLine tornRun
  exact ⟨rfl, hLine, hFail.mpr (by decide), hDuration⟩

end Verifier

end FaultBench

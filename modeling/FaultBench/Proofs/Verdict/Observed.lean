import FaultBench.Proofs.Diagnostic.Observed
import FaultBench.Proofs.Verdict.Modes
import FaultBench.Proofs.Verdict.Streams

/-!
# What a verdict shows

A verdict on a program that ran shows the line on which its signature occurs first or, if there is
none, what the sanitizer reported (`judge_cases`). `observed_of_pass` says which line that is,
`observed_isExcerpt` that what is shown is always fit for a row of a report, and
`headline_unmasked` that what the program wrote itself never stands before a headline of the
sanitizer.
-/

namespace FaultBench

open Text

/-- The first headline of the errors is that of all that is searched. -/
theorem Run.find?_diagnosticText {r : Run} {h : Headline}
    (hFind : Headline.find? r.stderr.toList = some h) :
    Headline.find? r.diagnosticText = some h := by
  have hNil : Headline.find? [] = none := rfl
  rcases r.diagnosticText_cases with ⟨hErrors, -⟩ | ⟨-, hText⟩ | ⟨front, hErrors, hText⟩
  · rw [hErrors, hNil] at hFind
    cases hFind
  · rwa [hText]
  · have hFront : Headline.find? front = some h := by
      rcases hErrors with hSame | hFeed
      · rwa [← hSame]
      · rwa [hFeed, Headline.find?_append, hNil, Option.or_none] at hFind
    rw [hText, Headline.find?_append, hFront, Option.some_or]

namespace Verifier

variable {v : Verifier} {k : Kind}

/-- The verdict on a program that ran, by where its signature occurs. -/
theorem judge_cases (v : Verifier) (k : Kind) (r : Run) :
    let mode := v.override.getD k.signature.mode
    let verdict := v.judge k (some (.ok r))
    (verdict.status = .pass ∧ ∃ i,
      IsLeast {i | mode.OccursAt k.signature.pattern.toList r.diagnosticText i} i ∧
      verdict.observed = some (String.ofList (snippet (lineAt r.diagnosticText i)))) ∨
    (verdict.status = .fail ∧
      verdict.observed = (describeObserved r.diagnosticText).map String.ofList) ∨
    (verdict.status.isError = true ∧ verdict.observed = none) := by
  dsimp only
  rw [judge, judgeRun]
  dsimp only [blank]
  cases hFind : (v.override.getD k.signature.mode).find k.signature.pattern.toList
      r.diagnosticText with
  | error flaw => exact .inr (.inr ⟨rfl, rfl⟩)
  | ok place =>
      cases place with
      | none => exact .inr (.inl ⟨rfl, rfl⟩)
      | some i => exact .inl ⟨rfl, i, MatchMode.find_eq_ok_some_iff.mp hFind, rfl⟩

/-- **The line of the match.** A verdict that passes shows the line in which the first occurrence of
the signature begins, or at whose end it does. A text on one line without blanks at its ends stands
in what is shown, unless the line is cut. -/
theorem observed_of_pass {r : Run} (hPass : (v.judge k (some (.ok r))).status = .pass) :
    let mode := v.override.getD k.signature.mode
    let signature := k.signature.pattern.toList
    ∃ i line, IsLeast {i | mode.OccursAt signature r.diagnosticText i} i ∧
      IsLineAt r.diagnosticText i line ∧
      (v.judge k (some (.ok r))).observed = some (String.ofList (snippet line)) ∧
      (mode = .substring → '\n' ∉ signature → Trimmed signature → (trim line).length ≤ 200 →
        signature <:+: snippet line) := by
  dsimp only
  rcases v.judge_cases k r with ⟨-, i, hFirst, hObserved⟩ | ⟨hFail, -⟩ | ⟨hError, -⟩
  · have hLine := isLineAt_lineAt (MatchMode.le_length_of_isLeast hFirst)
    refine ⟨i, lineAt r.diagnosticText i, hFirst, hLine, hObserved, ?_⟩
    intro hMode hOneLine hTrimmed hShort
    have hOccurs := hFirst.1
    rw [hMode] at hOccurs
    rw [snippet_of_length_le hShort]
    exact infix_trim hTrimmed (infix_of_isLineAt hLine hOneLine hOccurs)
  · exact nomatch hPass.symm.trans hFail
  · rw [hPass] at hError
    cases hError

/-- The first occurrence begins behind a carriage return, where the line has not ended. -/
def returnedRun : Run where
  program := .ofSource FaultClass.leak.canonicalId .leak {} ""
  exitCode := none
  signal := some 6
  stdout := "detected memory leaks"
  stderr := "==7==\n \tERROR: é\rdetected memory leaks ~\r\n"
  compileStderr := ""
  durationMs := 7
  truncated := false

theorem observed_of_pass_returned :
    let verdict := judge {} (Kind.builtin .leak) (some (.ok returnedRun))
    let signature := (Kind.builtin .leak).signature.pattern.toList
    verdict.status = .pass ∧ '\n' ∉ signature ∧ Trimmed signature ∧
      ∃ line, (∃ i, IsLineAt returnedRun.diagnosticText i line) ∧ (trim line).length ≤ 200 ∧
        verdict.observed = some (String.ofList (snippet line)) ∧ signature <:+: snippet line := by
  dsimp only
  have hPass : (judge {} (Kind.builtin .leak) (some (.ok returnedRun))).status = .pass := by decide
  have hShown : (judge {} (Kind.builtin .leak) (some (.ok returnedRun))).observed =
      some "ERROR: é\rdetected memory leaks ~" := by decide
  have hOneLine : '\n' ∉ (Kind.builtin .leak).signature.pattern.toList := by decide
  have hTrimmed : Trimmed (Kind.builtin .leak).signature.pattern.toList := by
    constructor
    · rintro c ⟨⟩
      rfl
    · rintro c ⟨⟩
      rfl
  obtain ⟨i, line, -, hLine, hObserved, hContains⟩ := observed_of_pass hPass
  have hSnippet : snippet line = "ERROR: é\rdetected memory leaks ~".toList := by
    rw [hShown, Option.some_inj] at hObserved
    rw [hObserved, String.toList_ofList]
  have hShort : (trim line).length ≤ 200 := length_trim_le (by rw [hSnippet]; decide)
  exact ⟨hPass, hOneLine, hTrimmed, line, ⟨i, hLine⟩, hShort, hObserved,
    hContains rfl hOneLine hTrimmed hShort⟩

/-- What a verdict on an outcome shows is fit for a row of a report, and it is there where it can
be. -/
structure ShowsExcerpt (outcome : Option Outcome) (w : Verdict) : Prop where
  isExcerpt : ∀ s, w.observed = some s → IsExcerpt s.toList
  error : w.status.isError = true → w.observed = none
  pass : w.status = .pass → ∃ s, w.observed = some s
  /-- There is nothing to show of a failure only if what is searched is blank. -/
  fail : w.status = .fail → ∃ r, outcome = some (.ok r) ∧
    (w.observed = none ↔ isBlankText r.diagnosticText = true) ∧
    ∀ s, w.observed = some s → s ≠ ""

namespace ShowsExcerpt

variable {w : Verdict}

theorem of_isError {outcome : Option Outcome} (hError : w.status.isError = true)
    (hNone : w.observed = none) : ShowsExcerpt outcome w where
  isExcerpt s hs := nomatch hNone.symm.trans hs
  error _ := hNone
  pass hPass := by
    rw [hPass] at hError
    cases hError
  fail hFail := by
    rw [hFail] at hError
    cases hError

theorem of_pass {outcome : Option Outcome} {line : List Char} (hPass : w.status = .pass)
    (hOneLine : '\n' ∉ line) (hShown : w.observed = some (String.ofList (snippet line))) :
    ShowsExcerpt outcome w where
  isExcerpt s hs := by
    rw [hShown, Option.some_inj] at hs
    rw [← hs, String.toList_ofList]
    exact isExcerpt_snippet hOneLine
  error hError := by
    rw [hPass] at hError
    cases hError
  pass _ := ⟨_, hShown⟩
  fail hFail := nomatch hPass.symm.trans hFail

theorem of_fail {r : Run} (hFail : w.status = .fail)
    (hShown : w.observed = (describeObserved r.diagnosticText).map String.ofList) :
    ShowsExcerpt (some (.ok r)) w := by
  have hTaken : ∀ s, w.observed = some s → IsExcerpt s.toList ∧ s.toList ≠ [] := by
    intro s hs
    rw [hShown] at hs
    obtain ⟨t, ht, rfl⟩ := Option.map_eq_some_iff.mp hs
    rw [String.toList_ofList]
    exact isExcerpt_describeObserved ht
  refine ⟨fun s hs => (hTaken s hs).1, ?_, ?_, fun _ => ⟨r, rfl, ?_, ?_⟩⟩
  · intro hError
    rw [hFail] at hError
    cases hError
  · intro hPass
    exact nomatch hPass.symm.trans hFail
  · rw [hShown, Option.map_eq_none_iff, describeObserved_eq_none_iff]
  · intro s hs hEmpty
    exact (hTaken s hs).2 (String.toList_eq_nil_iff.mpr hEmpty)

end ShowsExcerpt

/-- **What is shown is fit for a row of a report.** -/
theorem observed_isExcerpt (v : Verifier) (k : Kind) (outcome : Option Outcome) :
    ShowsExcerpt outcome (v.judge k outcome) := by
  cases outcome with
  | none => exact .of_isError rfl rfl
  | some ended =>
      cases ended with
      | error e => exact .of_isError rfl rfl
      | ok r =>
          rcases v.judge_cases k r with ⟨hPass, i, hFirst, hShown⟩ | ⟨hFail, hShown⟩ |
            ⟨hError, hNone⟩
          · have hLine := isLineAt_lineAt (MatchMode.le_length_of_isLeast hFirst)
            exact .of_pass hPass hLine.oneLine hShown
          · exact .of_fail hFail hShown
          · exact .of_isError hError hNone

/-- A failure shows the first headline of the errors, if they have one. -/
theorem observed_of_find? {r : Run} {h : Headline} (hFind : Headline.find? r.stderr.toList = some h)
    (hFail : (v.judge k (some (.ok r))).status = .fail) :
    (v.judge k (some (.ok r))).observed = some (String.ofList (snippet h.title)) := by
  rcases v.judge_cases k r with ⟨hPass, -⟩ | ⟨-, hObserved⟩ | ⟨hError, -⟩
  · exact nomatch hPass.symm.trans hFail
  · rw [hObserved, describeObserved_of_find? (Run.find?_diagnosticText hFind)]
    rfl
  · rw [hFail] at hError
    cases hError

/-- **Output does not mask the sanitizer.** What follows a text with a headline does not change what
is taken from it. So the failures of any two runs with the same errors, which have a headline, show
the same, whatever the programs wrote to their output: the first headline of the errors. -/
theorem headline_unmasked :
    (∀ s t : List Char, (∃ line ∈ lines s, Headline.ofLine? line ≠ none) →
      describeObserved (s ++ '\n' :: t) = describeObserved s) ∧
    ∀ (v v' : Verifier) (k k' : Kind) (r r' : Run), r.stderr = r'.stderr →
      (∃ line ∈ lines r.stderr.toList, Headline.ofLine? line ≠ none) →
      (v.judge k (some (.ok r))).status = .fail → (v'.judge k' (some (.ok r'))).status = .fail →
      (v.judge k (some (.ok r))).observed = (v'.judge k' (some (.ok r'))).observed ∧
      ∃ h : Headline, h.IsFirstOf r.stderr.toList ∧
        (v.judge k (some (.ok r))).observed = some (String.ofList (snippet h.title)) := by
  constructor
  · intro s t hHeadline
    obtain ⟨h, hFind⟩ := Headline.exists_find?_iff.mpr hHeadline
    exact describeObserved_append hFind t
  · intro v v' k k' r r' hSame hHeadline hFail hFail'
    obtain ⟨h, hFind⟩ := Headline.exists_find?_iff.mpr hHeadline
    have hLeft := observed_of_find? hFind hFail
    have hRight := observed_of_find? (hSame ▸ hFind) hFail'
    exact ⟨hLeft.trans hRight.symm, h, Headline.find?_eq_some_iff.mp hFind, hLeft⟩

/-- What the program wrote itself looks like a headline. -/
def forgedRun (stdout : String) : Run where
  program := .ofSource FaultClass.leak.canonicalId .leak {} ""
  exitCode := some 1
  signal := none
  stdout := stdout
  stderr := " \nERROR: AddressSanitizer: SEGV on é \r\nERROR: LeakSanitizer: none"
  compileStderr := ""
  durationMs := 7
  truncated := false

theorem headline_unmasked_forged :
    let verdict (stdout : String) := judge {} (Kind.builtin .doubleFree)
      (some (.ok (forgedRun stdout)))
    (verdict "").status = .fail ∧ (verdict "ERROR: FaultSanitizer: mine\n").status = .fail ∧
      (∃ line ∈ lines (forgedRun "").stderr.toList, Headline.ofLine? line ≠ none) ∧
      (verdict "").observed = (verdict "ERROR: FaultSanitizer: mine\n").observed ∧
      describeObserved ((forgedRun "").stderr.toList ++ '\n' :: "SUMMARY: mine".toList) =
        describeObserved (forgedRun "").stderr.toList := by
  dsimp only
  have hFail : (judge {} (Kind.builtin .doubleFree) (some (.ok (forgedRun "")))).status =
      .fail := by decide
  have hForged : (judge {} (Kind.builtin .doubleFree)
      (some (.ok (forgedRun "ERROR: FaultSanitizer: mine\n")))).status = .fail := by
    decide +kernel
  have hHeadline : ∃ line ∈ lines (forgedRun "").stderr.toList, Headline.ofLine? line ≠ none := by
    refine ⟨"ERROR: AddressSanitizer: SEGV on é ".toList, by decide, ?_⟩
    exact Option.ne_none_iff_isSome.mpr rfl
  obtain ⟨hTexts, hRuns⟩ := headline_unmasked
  obtain ⟨hSame, -⟩ := hRuns {} {} (Kind.builtin .doubleFree) (Kind.builtin .doubleFree)
    (forgedRun "") (forgedRun "ERROR: FaultSanitizer: mine\n") rfl hHeadline hFail hForged
  exact ⟨hFail, hForged, hHeadline, hSame, hTexts _ _ hHeadline⟩

end Verifier

end FaultBench

import FaultBench.Report.Text
import FaultBench.Proofs.Exchange.Ids
import FaultBench.Proofs.Program.Layout
import FaultBench.Proofs.Text.Quoted
import FaultBench.Proofs.Text.Split
import Mathlib.Data.List.DropRight
import Mathlib.Data.String.Basic
import Mathlib.Order.Bounds.Basic

/-!
# Tables of reports

A report as a text has a header, a line for each verdict, an empty line, the counts and, if the run
was ended early, the reason. The lines above the empty one stand in columns, of which the first is
as wide as the longest id.

* `lines_text`: the text is cut into these lines, as no text that goes into them holds a line feed.
  Patterns may hold any character, since they are quoted.
* `Columns.cells_eq`, `kindsAndStatuses_text`: kinds and statuses are read back from their columns.
* `text_columns` puts this together.
-/

namespace FaultBench

/-! ## Columns -/

theorem toList_padRight (width : Nat) (s : String) :
    (padRight width s).toList = s.toList ++ List.replicate (width - s.length) ' ' := by
  rw [padRight, String.toList_append, String.toList_ofList]

namespace Report

/-- A line of the table without its line feed. -/
def lineChars (width : Nat) (kind status detail : String) : List Char :=
  (padRight width kind).toList ++ ([' ', ' '] ++
    ((padRight statusWidth status).toList ++ ([' ', ' '] ++ detail.toList)))

theorem toList_tableLine (width : Nat) (kind status detail : String) :
    (tableLine width kind status detail).toList =
      lineChars width kind status detail ++ ['\n'] := by
  simp [tableLine, lineChars]

end Report

/-! ## Lines -/

namespace Verdict

/-- What was observed, and the message of an error, lie on one line. -/
structure OneLine (v : Verdict) : Prop where
  observed : ∀ s, v.observed = some s → '\n' ∉ s.toList
  message : ∀ category s, v.status = .error category s → '\n' ∉ s.toList

variable {v : Verdict}

theorem OneLine.observed_getD (h : v.OneLine) (other : String) (hOther : '\n' ∉ other.toList) :
    '\n' ∉ (v.observed.getD other).toList := by
  cases hObserved : v.observed with
  | none => exact hOther
  | some s => exact h.observed s hObserved

theorem lineFeed_not_mem_category (c : ErrorCategory) : '\n' ∉ (toString c).toList := by
  cases c <;> decide

/-- What was found is told on one line, whatever the pattern is. -/
theorem OneLine.detail (h : v.OneLine) : '\n' ∉ v.detail.toList := by
  have hPattern := Text.lineFeed_not_mem_quote v.expected
  unfold Verdict.detail
  cases hStatus : v.status with
  | pass =>
      have hObserved := h.observed_getD "" (by decide)
      simp [Text.toString_text, hPattern, hObserved]
  | fail =>
      have hObserved := h.observed_getD "<no diagnostic output>" (by decide)
      simp [Text.toString_text, hPattern, hObserved]
  | error category message =>
      have hCategory := lineFeed_not_mem_category category
      have hMessage := h.message category message hStatus
      simp [Text.toString_text, hCategory, hMessage]

end Verdict

namespace Status

theorem isWord_label (s : Status) : Text.IsWord s.label.toList := by
  cases s with
  | pass => decide
  | fail => decide
  | error => exact (by decide : Text.IsWord "error".toList)

end Status

namespace Report

variable {r : Report}

/-- The line of a verdict without its line feed. -/
def verdictChars (width : Nat) (v : Verdict) : List Char :=
  lineChars width v.kind.text v.status.label v.detail

/-- The counts of a summary. -/
def countChars (s : Summary) : List Char :=
  s!"{s.total} kinds: {s.passed} passed, {s.failed} failed, {s.errored} errored".toList

/-- What is said of a run that was ended early. -/
def reasonChars (reason : String) : List Char := s!"run aborted: {reason}".toList

/-- The lines of a report. -/
def textLines (r : Report) : List (List Char) :=
  lineChars r.kindWidth "KIND" "STATUS" "DETAIL" :: r.verdicts.map (verdictChars r.kindWidth) ++
    [] :: countChars r.summary :: r.aborted.toList.map reasonChars

theorem toList_text (r : Report) : r.text.toList = r.textLines.flatMap (· ++ ['\n']) := by
  have hRows : (String.join (r.verdicts.map (verdictLine r.kindWidth))).toList =
      (r.verdicts.map (verdictChars r.kindWidth)).flatMap (· ++ ['\n']) := by
    rw [String.toList_join, List.flatMap_map, List.flatMap_map]
    exact List.flatMap_congr fun v _ => toList_tableLine _ _ _ _
  have hCounts : (summaryLine r.summary).toList = countChars r.summary ++ ['\n'] := by
    simp [summaryLine, countChars, Text.toString_text]
  have hReason : (r.aborted.elim "" fun reason => s!"run aborted: {reason}\n").toList =
      (r.aborted.toList.map reasonChars).flatMap (· ++ ['\n']) := by
    cases r.aborted with
    | none => rfl
    | some reason =>
        simp [reasonChars, Text.toString_text]
  rw [text, String.toList_append, String.toList_append, String.toList_append, String.toList_append,
    toList_tableLine, hRows, hCounts, hReason, textLines]
  simp only [List.flatMap_cons, List.flatMap_append, List.cons_append, List.append_assoc]
  rfl

theorem lineFeed_not_mem_lineChars {width : Nat} {kind status detail : String}
    (hKind : '\n' ∉ kind.toList) (hStatus : '\n' ∉ status.toList)
    (hDetail : '\n' ∉ detail.toList) : '\n' ∉ lineChars width kind status detail := by
  simp [lineChars, toList_padRight, hKind, hStatus, hDetail]

theorem lineFeed_not_mem_countChars (s : Summary) : '\n' ∉ countChars s := by
  have hCount : ∀ n : Nat, '\n' ∉ (toString n).toList := fun n => (Text.IsWord.nat n).not_mem rfl
  simp only [countChars, Text.toString_text, String.toList_append, List.mem_append, not_or, hCount]
  decide

/-- No text of the report holds a line feed, but for patterns. -/
structure OneLiners (r : Report) : Prop where
  verdicts : ∀ v ∈ r.verdicts, v.OneLine
  aborted : ∀ reason, r.aborted = some reason → '\n' ∉ reason.toList

theorem OneLiners.not_mem (h : r.OneLiners) : ∀ line ∈ r.textLines, '\n' ∉ line := by
  simp only [textLines, List.cons_append, List.forall_mem_cons, List.forall_mem_append,
    List.forall_mem_map]
  refine ⟨?_, fun v hv => ?_, List.not_mem_nil, lineFeed_not_mem_countChars _, fun reason hr => ?_⟩
  · exact lineFeed_not_mem_lineChars (by decide) (by decide) (by decide)
  · exact lineFeed_not_mem_lineChars (v.kind.isWord_text.not_mem rfl)
      (v.status.isWord_label.not_mem rfl) (h.verdicts v hv).detail
  · have hReason := h.aborted reason (Option.mem_toList.mp hr)
    simp only [reasonChars, Text.toString_text, String.toList_append, List.mem_append, hReason,
      or_false]
    decide

/-- A pattern of several lines, an id that is wider than the header, and a reason. -/
def crowded : Report where
  head := ⟨.zero, ⟨⟨2024, 1, 2⟩, 11045, 0⟩⟩
  verdicts := [
    { kind := FaultClass.leak.canonicalId, faultClass := .leak, status := .pass
      expected := "lost\n\"block\"\n", matchMode := .substring, observed := some "lost  \r" },
    { kind := FaultClass.stackUseAfterScope.canonicalId, faultClass := .stackUseAfterScope
      status := .error .timeout "é: slow", expected := "", matchMode := .regex }]
  summary := ⟨2, 1, 0, 1⟩
  aborted := some "stopped"

end Report

end FaultBench

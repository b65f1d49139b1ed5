import FaultBench.Report.Markdown
import FaultBench.Proofs.Report.Table

/-!
# Rows of reports

A row of the Markdown table has a cell for the kind, the status, the pattern and the finding. A bar
ends a cell unless a backslash stands in front of it (`openBars`). Bars of the finding are escaped,
those of the pattern are not, so a row has as many cells as there should be exactly if the pattern
holds no such bar (`markdown_rows`).
-/

namespace FaultBench

/-! ## Bars -/

/-- How many bars of a text have no backslash in front of them. In front of the text itself there is
one if `escaped` is set. -/
def openBars (escaped : Bool) : List Char → Nat
  | [] => 0
  | c :: s => (if c = '|' ∧ escaped = false then 1 else 0) + openBars (c == '\\') s

variable {escaped : Bool} {s t : List Char} {c : Char}

theorem openBars_of_not_mem (h : '|' ∉ s) : openBars escaped s = 0 := by
  induction s generalizing escaped with
  | nil => rfl
  | cons c s ih =>
      obtain ⟨hc, hs⟩ := List.ne_and_not_mem_of_not_mem_cons h
      rw [openBars, if_neg (fun hBar => hc hBar.1.symm), ih hs]

/-- What stands in front of another character than a bar has no influence on the bars behind it. -/
theorem openBars_append_cons (hc : c ≠ '|') :
    openBars escaped (s ++ c :: t) = openBars escaped s + openBars (c == '\\') t := by
  induction s generalizing escaped with
  | nil => simp [openBars, hc]
  | cons d s ih => rw [List.cons_append, openBars, openBars, ih, Nat.add_assoc]

/-- A text whose bars are escaped. -/
def escapedBars (s : List Char) : List Char :=
  s.flatMap fun c => if c == '|' then ['\\', '|'] else [c]

theorem escapedBars_cons :
    escapedBars (c :: s) = (if c == '|' then ['\\', '|'] else [c]) ++ escapedBars s := rfl

theorem openBars_escapedBars : openBars escaped (escapedBars s) = 0 := by
  induction s generalizing escaped with
  | nil => rfl
  | cons c s ih =>
      rw [escapedBars_cons]
      by_cases hc : c = '|'
      · simp [openBars, hc, ih]
      · simp [openBars, hc, ih]

theorem lineFeed_not_mem_escapedBars (h : '\n' ∉ s) : '\n' ∉ escapedBars s := by
  rw [escapedBars, List.mem_flatMap]
  rintro ⟨c, hc, hMem⟩
  have hFeed : '\n' ≠ c := fun hEq => h (hEq ▸ hc)
  split at hMem
  · simp at hMem
  · exact hFeed (List.mem_singleton.mp hMem)

/-! ## Rows -/

namespace Verdict

variable {v : Verdict}

/-- The row of a verdict without its line feed. -/
def rowChars (v : Verdict) : List Char :=
  '|' :: ' ' :: '`' :: (v.kind.text.toList ++ '`' :: ' ' :: '|' :: ' ' :: (v.status.label.toList ++
    ' ' :: '|' :: ' ' :: '`' :: (v.expected.toList ++ '`' :: ' ' :: '|' :: ' ' ::
      (escapedBars v.finding.toList ++ [' ', '|']))))

theorem toList_row (v : Verdict) : v.row.toList = v.rowChars ++ ['\n'] := by
  have hKind : toString v.kind = v.kind.text := rfl
  simp [row, rowChars, Text.substitute, escapedBars, Text.toString_text, hKind]

theorem openBars_rowChars (v : Verdict) :
    openBars false v.rowChars = 5 + openBars false v.expected.toList := by
  have hKind : openBars false v.kind.text.toList = 0 :=
    openBars_of_not_mem (v.kind.isWord_text.not_mem rfl)
  have hLabel : openBars false v.status.label.toList = 0 :=
    openBars_of_not_mem (v.status.isWord_label.not_mem rfl)
  simp [rowChars, openBars, openBars_append_cons, hKind, hLabel, openBars_escapedBars]
  omega

theorem OneLine.finding (h : v.OneLine) : '\n' ∉ v.finding.toList := by
  have hObserved := h.observed_getD "" (by decide)
  unfold Verdict.finding
  cases hStatus : v.status with
  | pass => exact hObserved
  | fail => exact hObserved
  | error category message =>
      have hCategory := lineFeed_not_mem_category category
      have hMessage := h.message category message hStatus
      simp [Text.toString_text, hCategory, hMessage]

theorem OneLine.rowChars (h : v.OneLine) (hExpected : '\n' ∉ v.expected.toList) :
    '\n' ∉ v.rowChars := by
  have hKind : '\n' ∉ v.kind.text.toList := v.kind.isWord_text.not_mem rfl
  have hLabel : '\n' ∉ v.status.label.toList := v.status.isWord_label.not_mem rfl
  have hFinding := lineFeed_not_mem_escapedBars h.finding
  simp [Verdict.rowChars, hKind, hLabel, hExpected, hFinding]

end Verdict

namespace Report

/-- What stands above the table. -/
def opening (r : Report) : String := "# Fault Corpus Report\n\n" ++ r.facts ++ "\n"

theorem markdown_eq (r : Report) :
    r.markdown = r.opening ++ tableHead ++ String.join (r.verdicts.map Verdict.row) := rfl

/-- Where the texts of verdicts lie on one line each, there is a row for each verdict. -/
theorem lines_rows {vs : List Verdict} (h : ∀ v ∈ vs, v.OneLine ∧ '\n' ∉ v.expected.toList) :
    Text.splitOn '\n' (String.join (vs.map Verdict.row)).toList =
      vs.map Verdict.rowChars ++ [[]] := by
  have hRows : (String.join (vs.map Verdict.row)).toList =
      (vs.map Verdict.rowChars).flatMap (· ++ ['\n']) := by
    rw [String.toList_join, List.flatMap_map, List.flatMap_map]
    exact List.flatMap_congr fun v _ => v.toList_row
  have hFeeds : ∀ row ∈ vs.map Verdict.rowChars, '\n' ∉ row :=
    List.forall_mem_map.mpr fun v hv => (h v hv).1.rowChars (h v hv).2
  have hSplit := Text.splitOn_flatMap hFeeds []
  rwa [List.append_nil, ← hRows] at hSplit

/-- **The rows of a report.** Where the texts of verdicts lie on one line each, the table has a row
for each verdict behind its head, in the order of the verdicts. A row has four cells, as there should
be, and one more for each bar of the pattern that no backslash stands in front of. What was found
ends no cell. -/
theorem markdown_rows (r : Report)
    (h : ∀ v ∈ r.verdicts, v.OneLine ∧ '\n' ∉ v.expected.toList) :
    ∃ body rows, r.markdown = r.opening ++ tableHead ++ body ∧
      Text.splitOn '\n' body.toList = rows ++ [[]] ∧
      List.Forall₂ (fun v row => row = v.rowChars ∧
        openBars false row = 5 + openBars false v.expected.toList) r.verdicts rows ∧
      ((∀ row ∈ rows, openBars false row = 5) ↔
        ∀ v ∈ r.verdicts, openBars false v.expected.toList = 0) := by
  refine ⟨_, r.verdicts.map Verdict.rowChars, r.markdown_eq, lines_rows h, ?_, ?_⟩
  · rw [List.forall₂_map_right_iff, List.forall₂_same]
    intro v _
    exact ⟨rfl, v.openBars_rowChars⟩
  · rw [List.forall_mem_map]
    refine forall₂_congr fun v _ => ?_
    rw [v.openBars_rowChars]
    omega

/-- A pattern with two alternatives. -/
def alternatives : Report where
  head := ⟨.zero, ⟨⟨2024, 1, 2⟩, 11045, 0⟩⟩
  verdicts := [
    { kind := FaultClass.leak.canonicalId, faultClass := .leak, status := .pass
      expected := "lost|leaked", matchMode := .regex, observed := some "lost | found" }]
  summary := ⟨1, 1, 0, 0⟩
  aborted := none

theorem oneLine_alternatives :
    ∀ v ∈ alternatives.verdicts, v.OneLine ∧ '\n' ∉ v.expected.toList := by
  intro v hv
  rw [List.mem_singleton.mp hv]
  refine ⟨⟨fun s hs => ?_, nofun⟩, by decide⟩
  cases hs
  decide

theorem markdown_rows_alternatives :
    (∀ v ∈ alternatives.verdicts, v.OneLine ∧ '\n' ∉ v.expected.toList) ∧
      ∃ body row, alternatives.markdown = alternatives.opening ++ tableHead ++ body ∧
        Text.splitOn '\n' body.toList = [row, []] ∧ openBars false row = 6 := by
  obtain ⟨body, rows, hBody, hLines, hRows, -⟩ := markdown_rows alternatives oneLine_alternatives
  obtain ⟨row, rest, hRow, hRest, rfl⟩ := List.forall₂_cons_left_iff.mp hRows
  obtain rfl := List.forall₂_nil_left_iff.mp hRest
  exact ⟨oneLine_alternatives, body, row, hBody, hLines, hRow.2⟩

end Report

end FaultBench

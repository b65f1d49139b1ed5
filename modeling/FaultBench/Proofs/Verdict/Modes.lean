import FaultBench.Proofs.Pattern.Literal
import FaultBench.Verdict.Judgement

/-!
# Both ways to look for a signature

A signature is looked for as a text or as a pattern; either way it is found where it occurs first
(`MatchMode.find_eq_ok_some_iff`). Without operators in it, it is found as a pattern exactly where
it is found as a text, so the verdicts of both ways agree (`modes_agree`).
-/

namespace FaultBench

namespace MatchMode

/-- The signature occurs in the text at place `i`. -/
def OccursAt (mode : MatchMode) (signature text : List Char) (i : Nat) : Prop :=
  match mode with
  | .substring => signature <+: text.drop i
  | .regex => ∃ p, Pattern.read signature = .ok p ∧ p.Begins text i

theorem find_eq_ok_some_iff {mode : MatchMode} {signature text : List Char} {i : Nat} :
    mode.find signature text = .ok (some i) ↔ IsLeast {i | mode.OccursAt signature text i} i := by
  cases mode with
  | substring => simp only [find, OccursAt, Except.ok.injEq, Text.find?_eq_some_iff]
  | regex =>
      unfold find OccursAt
      cases hRead : Pattern.read signature with
      | error flaw => simp [Except.map, IsLeast]
      | ok p => simp [Except.map, Pattern.find?_eq_some_iff]

theorem le_length_of_isLeast {mode : MatchMode} {signature text : List Char} {i : Nat}
    (h : IsLeast {i | mode.OccursAt signature text i} i) : i ≤ text.length := by
  cases mode with
  | substring =>
      by_contra hBehind
      have hHere : signature <+: text.drop i := h.1
      rw [List.drop_eq_nil_of_le (by omega), List.prefix_nil] at hHere
      have hFirst : OccursAt .substring signature text 0 := hHere ▸ List.nil_prefix
      have hLe : i ≤ 0 := h.2 hFirst
      omega
  | regex =>
      obtain ⟨p, -, hBegins⟩ := h.1
      exact hBegins.le_length

/-- A text without operators is found in either way at the same place, or in neither way. -/
theorem find_regex_of_plain {signature : List Char} (hNonempty : signature ≠ [])
    (hPlain : ∀ c ∈ signature, Pattern.isOperator c = false)
    (hSize : Pattern.read signature ≠ .error .tooLarge) (text : List Char) :
    regex.find signature text = substring.find signature text := by
  obtain ⟨p, hRead, hDescribes⟩ := Pattern.read_of_plain hNonempty hPlain hSize
  have hPlace : p.find? text = Text.find? signature text :=
    Pattern.find?_of_plain hNonempty hDescribes text
  rw [find, find, hRead, Except.map, hPlace]

end MatchMode

namespace Verifier

/-- **Both ways agree on texts without operators.** Whatever came of the run, the verdict that takes
the signature for a pattern and the one that takes it for a text have the same status and show the
same. -/
theorem modes_agree {k : Kind} (hNonempty : k.signature.pattern ≠ "")
    (hPlain : ∀ c ∈ k.signature.pattern.toList, Pattern.isOperator c = false)
    (hSize : Pattern.read k.signature.pattern.toList ≠ .error .tooLarge)
    (outcome : Option Outcome) :
    (judge ⟨some .regex⟩ k outcome).status = (judge ⟨some .substring⟩ k outcome).status ∧
    (judge ⟨some .regex⟩ k outcome).observed = (judge ⟨some .substring⟩ k outcome).observed := by
  cases outcome with
  | none => exact ⟨rfl, rfl⟩
  | some ended =>
      cases ended with
      | error e => exact ⟨rfl, rfl⟩
      | ok r =>
          have hChars : k.signature.pattern.toList ≠ [] := by
            rwa [Ne, String.toList_eq_nil_iff]
          have hFind := MatchMode.find_regex_of_plain hChars hPlain hSize r.diagnosticText
          simp only [judge, judgeRun, blank, Option.getD_some, hFind]
          cases MatchMode.substring.find k.signature.pattern.toList r.diagnosticText with
          | error flaw => exact ⟨rfl, rfl⟩
          | ok place => cases place <;> exact ⟨rfl, rfl⟩

/-- What the kind looks for holds characters that are operators only within classes. -/
def accentedKind : Kind :=
  .ofClass FaultClass.leak.canonicalId .leak ⟨"é & fuite -", .regex⟩

/-- The text occurs behind a part of itself. -/
def accentedRun : Run where
  program := .ofSource FaultClass.leak.canonicalId .leak {} ""
  exitCode := some 1
  signal := none
  stdout := "é & fuite -"
  stderr := "été\r\nà é & é & fuite - ~"
  compileStderr := ""
  durationMs := 7
  truncated := false

theorem modes_agree_accented :
    accentedKind.signature.pattern ≠ "" ∧
      (∀ c ∈ accentedKind.signature.pattern.toList, Pattern.isOperator c = false) ∧
      Pattern.read accentedKind.signature.pattern.toList ≠ .error .tooLarge ∧
      (judge ⟨some .regex⟩ accentedKind (some (.ok accentedRun))).status = .pass ∧
      (judge ⟨some .regex⟩ accentedKind (some (.ok accentedRun))).observed =
        some "à é & é & fuite - ~" := by
  have hNonempty : accentedKind.signature.pattern ≠ "" := by decide
  have hPlain : ∀ c ∈ accentedKind.signature.pattern.toList, Pattern.isOperator c = false := by
    have hNone : accentedKind.signature.pattern.toList.any Pattern.isOperator = false := by decide
    intro c hc
    exact Bool.eq_false_of_not_eq_true (List.any_eq_false.mp hNone c hc)
  have hRead : ∃ p, Pattern.read accentedKind.signature.pattern.toList = .ok p := ⟨_, rfl⟩
  have hSize : Pattern.read accentedKind.signature.pattern.toList ≠ .error .tooLarge := by
    obtain ⟨p, hOk⟩ := hRead
    rw [hOk]
    exact fun hError => by cases hError
  obtain ⟨hStatus, hObserved⟩ := modes_agree hNonempty hPlain hSize (some (.ok accentedRun))
  exact ⟨hNonempty, hPlain, hSize, hStatus.trans (by decide), hObserved.trans (by decide)⟩

end Verifier

end FaultBench

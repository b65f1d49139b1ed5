import FaultBench.Proofs.Diagnostic.Compiler
import FaultBench.Proofs.Text.Lines
import FaultBench.Proofs.Text.Search
import Mathlib.Data.List.Forall2

/-!
# Causes of failed compilations

Of what a compiler said when it failed, all lines that show an error are kept (`forall₂_errors`). Where
no line shows one, the last lines that are not blank stand for the cause. So the cause is only lost
where nothing was said (`causes_kept`).
-/

namespace FaultBench.Diagnostic

open Text

/-- A warning about the set-up of the compiler. -/
def IsNoise (line : List Char) : Prop :=
  (∃ a b, line = "warning: ".toList ++ a ++ " incompatible with ".toList ++ b) ∨
  (∃ a, line = "warning: ".toList ++ a ++ " input unused".toList) ∨
  ∃ a b, line =
    "warning: include location ".toList ++ a ++ " is unsafe for cross-compilation".toList ++ b

/-- The line is no noise and is read as the diagnostic, which is an error. -/
structure ShowsError (line : List Char) (d : Diagnostic) : Prop where
  not_noise : ¬ IsNoise line
  read : ofLine? line = some d
  severity : d.severity = .fatal ∨ d.severity = .error

def IsErrorLine (line : List Char) : Prop := ∃ d, ShowsError line d

variable {line : List Char} {d : Diagnostic}

theorem startsThen_iff {start : String} {p : List Char → Bool} :
    startsThen start p line = true ↔ ∃ rest, line = start.toList ++ rest ∧ p rest = true := by
  rw [startsThen, Bool.and_eq_true, List.isPrefixOf_iff_prefix]
  constructor
  · rintro ⟨⟨rest, rfl⟩, hRest⟩
    rw [drop_length_append] at hRest
    exact ⟨rest, rfl, hRest⟩
  · rintro ⟨rest, rfl, hRest⟩
    rw [drop_length_append]
    exact ⟨List.prefix_append _ _, hRest⟩

theorem startsThen_contains_iff {start : String} {pat : List Char} :
    startsThen start (Text.contains pat) line = true ↔
      ∃ a b, line = start.toList ++ a ++ pat ++ b := by
  simp only [startsThen_iff, Text.contains, Option.isSome_iff_exists, exists_find?_iff]
  constructor
  · rintro ⟨-, rfl, a, b, rfl⟩
    exact ⟨a, b, by simp only [List.append_assoc]⟩
  · rintro ⟨a, b, rfl⟩
    exact ⟨a ++ pat ++ b, by simp only [List.append_assoc], a, b, rfl⟩

theorem startsThen_isSuffixOf_iff {start : String} {pat : List Char} :
    startsThen start (pat.isSuffixOf ·) line = true ↔ ∃ a, line = start.toList ++ a ++ pat := by
  simp only [startsThen_iff, List.isSuffixOf_iff_suffix]
  constructor
  · rintro ⟨-, rfl, a, rfl⟩
    exact ⟨a, (List.append_assoc _ _ _).symm⟩
  · rintro ⟨a, rfl⟩
    exact ⟨a ++ pat, List.append_assoc _ _ _, a, rfl⟩

theorem isNoise_iff : isNoise line = true ↔ IsNoise line := by
  rw [isNoise, Bool.or_eq_true, Bool.or_eq_true, startsThen_contains_iff,
    startsThen_isSuffixOf_iff, startsThen_contains_iff, or_assoc, IsNoise]

theorem isError_iff {v : Severity} : v.isError = true ↔ v = .fatal ∨ v = .error := by
  cases v <;> decide

theorem showsError_iff : ShowsError line d ↔
    isNoise line = false ∧ ofLine? line = some d ∧ d.severity.isError = true := by
  rw [← Bool.not_eq_true, isNoise_iff, isError_iff]
  exact ⟨fun ⟨hNoise, hRead, hError⟩ => ⟨hNoise, hRead, hError⟩,
    fun ⟨hNoise, hRead, hError⟩ => ⟨hNoise, hRead, hError⟩⟩

theorem isErrorLine_iff : IsErrorLine line ↔
    isNoise line = false ∧ (ofLine? line).any (·.severity.isError) = true := by
  simp only [IsErrorLine, showsError_iff, Option.any_eq_true]
  constructor
  · rintro ⟨d, hNoise, hRead, hError⟩
    exact ⟨hNoise, d, hRead, hError⟩
  · rintro ⟨hNoise, d, hRead, hError⟩
    exact ⟨d, hNoise, hRead, hError⟩

instance : DecidablePred IsErrorLine := fun _ => decidable_of_iff _ isErrorLine_iff.symm

/-- The cause is the line that shows the error of the other line. -/
def Shows (line : List Char) (cause : String) : Prop := ∃ d, ShowsError line d ∧ cause = d.text

/-- The errors that an output shows are those of its error lines, one after the other. -/
theorem forall₂_errors (output : List Char) :
    List.Forall₂ Shows ((lines output).filter (IsErrorLine ·))
      (((ofOutput output).filter (·.severity.isError)).map text) := by
  rw [ofOutput]
  induction lines output with
  | nil => exact .nil
  | cons line rest ih =>
      by_cases hLine : IsErrorLine line
      · obtain ⟨d, hShows⟩ := hLine
        have hHere : IsErrorLine line := ⟨d, hShows⟩
        obtain ⟨hNoise, hRead, hError⟩ := showsError_iff.mp hShows
        simp only [List.filter_cons, List.filterMap_cons, hHere, hNoise, hRead, hError, decide_true,
          Bool.not_false, if_true, List.map_cons]
        exact .cons ⟨d, hShows, rfl⟩ ih
      · rw [List.filter_cons_of_neg (by simpa using hLine)]
        rw [isErrorLine_iff, not_and] at hLine
        cases hNoise : isNoise line with
        | true =>
            simp only [List.filter_cons, hNoise, Bool.not_true, Bool.false_eq_true, if_false]
            exact ih
        | false =>
            have hNone := hLine hNoise
            cases hRead : ofLine? line with
            | none =>
                simp only [List.filter_cons, List.filterMap_cons, hNoise, hRead, Bool.not_false,
                  if_true]
                exact ih
            | some d =>
                have hHarmless : d.severity.isError = false := by simpa [hRead] using hNone
                simp only [List.filter_cons, List.filterMap_cons, hNoise, hRead, hHarmless,
                  Bool.not_false, Bool.false_eq_true, if_true, if_false]
                exact ih

variable {output : List Char}

theorem errors_eq_nil_iff : (ofOutput output).filter (·.severity.isError) = [] ↔
    ¬ ∃ line ∈ lines output, IsErrorLine line := by
  have hErrors := forall₂_errors output
  have hLines : (lines output).filter (IsErrorLine ·) = [] ↔
      ¬ ∃ line ∈ lines output, IsErrorLine line := by
    simp [List.filter_eq_nil_iff]
  rw [← hLines]
  constructor
  · intro hNil
    rw [hNil] at hErrors
    exact List.forall₂_nil_right_iff.mp hErrors
  · intro hNil
    rw [hNil] at hErrors
    exact List.map_eq_nil_iff.mp (List.forall₂_nil_left_iff.mp hErrors)

theorem causes_of_error (h : ∃ line ∈ lines output, IsErrorLine line) :
    List.Forall₂ Shows ((lines output).filter (IsErrorLine ·)) (causes output) := by
  have hSome : ((ofOutput output).filter (·.severity.isError)).isEmpty = false := by
    rw [List.isEmpty_eq_false_iff, Ne, errors_eq_nil_iff, not_not]
    exact h
  have hErrors := forall₂_errors output
  rwa [causes, hSome]

/-- The lines that are not blank. -/
def visibleLines (output : List Char) : List (List Char) :=
  (lines output).filter (!isBlankText ·)

theorem causes_of_no_error (h : ¬ ∃ line ∈ lines output, IsErrorLine line) :
    (causes output).map String.toList =
      (visibleLines output).drop ((visibleLines output).length - 20) := by
  have hNone : ((ofOutput output).filter (·.severity.isError)).isEmpty = true :=
    List.isEmpty_iff.mpr (errors_eq_nil_iff.mpr h)
  have hTexts : String.toList ∘ String.ofList = id := funext fun _ => String.toList_ofList
  rw [causes, hNone]
  dsimp only
  rw [if_pos rfl, List.map_map, hTexts, List.map_id]
  rfl

/-- What is read as an error is not blank. -/
theorem IsErrorLine.not_blank (h : IsErrorLine line) : isBlankText line = false := by
  obtain ⟨d, hShows⟩ := h
  exact not_blank_of_ofLine? hShows.read

theorem causes_eq_nil_iff :
    causes output = [] ↔ ∀ line ∈ lines output, isBlankText line = true := by
  by_cases h : ∃ line ∈ lines output, IsErrorLine line
  · obtain ⟨line, hMem, hLine⟩ := h
    have hErrors := causes_of_error ⟨line, hMem, hLine⟩
    refine iff_of_false ?_ ?_
    · intro hNil
      rw [hNil, List.forall₂_nil_right_iff, List.filter_eq_nil_iff] at hErrors
      exact hErrors line hMem (decide_eq_true hLine)
    · intro hBlank
      exact Bool.false_ne_true (hLine.not_blank.symm.trans (hBlank line hMem))
  · have hTexts := congrArg List.length (causes_of_no_error h)
    rw [List.length_map, List.length_drop] at hTexts
    have hVisible : causes output = [] ↔ visibleLines output = [] := by
      rw [← List.length_eq_zero_iff, ← List.length_eq_zero_iff]
      omega
    rw [hVisible, visibleLines, List.filter_eq_nil_iff]
    simp only [Bool.not_eq_true', Bool.not_eq_false]

/-- **A failed compilation keeps its cause.** There is no cause only if all lines are blank. If a line
shows an error, the causes are the errors of all lines that do, in their order, and each of them is
read as that error; else they are the last lines that are not blank, 20 at most. -/
theorem causes_kept (output : List Char) :
    (causes output = [] ↔ ∀ line ∈ lines output, isBlankText line = true) ∧
    ((∃ line ∈ lines output, IsErrorLine line) →
      List.Forall₂
        (fun line cause => ∃ d, ShowsError line d ∧ cause = d.text ∧ ofLine? cause.toList = some d)
        ((lines output).filter (IsErrorLine ·)) (causes output)) ∧
    ((¬ ∃ line ∈ lines output, IsErrorLine line) →
      (causes output).map String.toList <:+ visibleLines output ∧
      (causes output).length = min 20 (visibleLines output).length) := by
  refine ⟨causes_eq_nil_iff, fun h => ?_, fun h => ?_⟩
  · have hOneLine : ∀ line ∈ (lines output).filter (IsErrorLine ·), '\n' ∉ line := fun line hLine =>
      not_mem_of_mem_lines (List.mem_of_mem_filter hLine)
    refine ((List.forall₂_and_left _ _).mpr ⟨hOneLine, causes_of_error h⟩).imp ?_
    rintro line cause ⟨hLine, d, hShows, rfl⟩
    exact ⟨d, hShows, rfl, ofLine?_text_of_ofLine? hLine hShows.read⟩
  · have hTexts := causes_of_no_error h
    refine ⟨hTexts ▸ List.drop_suffix _ _, ?_⟩
    rw [← List.length_map (f := String.toList), hTexts, List.length_drop]
    omega

/-- Two errors stand between a warning, noise that has the form of an error, and a number that is too
large. -/
def mixedOutput : List Char :=
  ("a.c:1:2: warning: x\nwarning: a:1:2: error: b incompatible with c\r\n \n" ++
    "a.c:03:4:\terror: d\nx:1:99999999999: error: e\nb.c:1:1: fatal: f").toList

/-- The linker failed, and said more than is shown. -/
def linkerOutput : List Char := (List.replicate 11 "ld: error\r\n \nld: note\n".toList).flatten

theorem causes_kept_mixed :
    causes mixedOutput = ["a.c:3:4: error: d", "b.c:1:1: fatal error: f"] ∧
      (∃ line ∈ lines mixedOutput, IsErrorLine line) ∧
      List.Forall₂
        (fun line cause => ∃ d, ShowsError line d ∧ cause = d.text ∧ ofLine? cause.toList = some d)
        ((lines mixedOutput).filter (IsErrorLine ·)) (causes mixedOutput) ∧
      (¬ ∃ line ∈ lines linkerOutput, IsErrorLine line) ∧
      (causes linkerOutput).length = min 20 (visibleLines linkerOutput).length := by
  have hErrors : ∃ line ∈ lines mixedOutput, IsErrorLine line := by decide +kernel
  have hNone : ¬ ∃ line ∈ lines linkerOutput, IsErrorLine line := by decide +kernel
  obtain ⟨-, hShown, -⟩ := causes_kept mixedOutput
  obtain ⟨-, -, hLast⟩ := causes_kept linkerOutput
  exact ⟨by decide +kernel, hErrors, hShown hErrors, hNone, (hLast hNone).2⟩

end FaultBench.Diagnostic

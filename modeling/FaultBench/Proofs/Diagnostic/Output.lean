import FaultBench.Proofs.Diagnostic.Causes

/-!
# Outputs are read line by line

A line is silent if it is blank, noise, or not read as a diagnostic. What an output shows is what the
other lines are read as, one after the other (`forall₂_ofOutput`). So an output can be cut behind the
end of any line (`ofOutput_append`), and silent lines may be put in between (`ofOutput_insert`). The
carriage return in front of a line feed is no part of the line; a silent line does not come to speak
by losing one (`IsSilent.of_append_return`), for what a line says is only added to by what follows on
it. `ofOutput_by_line` puts this together.
-/

namespace FaultBench.Diagnostic

open Text

/-- The line shows no diagnostic. -/
def IsSilent (line : List Char) : Prop :=
  isBlankText line = true ∨ IsNoise line ∨ ofLine? line = none

variable {a b w line output : List Char}

/-! ## Silent lines -/

theorem isSilent_iff : IsSilent line ↔ isNoise line = true ∨ ofLine? line = none := by
  rw [IsSilent, isNoise_iff, or_iff_right_iff_imp]
  intro hBlank
  right
  rw [Option.eq_none_iff_forall_ne_some]
  intro d hRead
  exact Bool.false_ne_true ((not_blank_of_ofLine? hRead).symm.trans hBlank)

instance : DecidablePred IsSilent := fun _ => decidable_of_iff _ isSilent_iff.symm

theorem not_isSilent_iff :
    ¬ IsSilent line ↔ isNoise line = false ∧ ∃ d, ofLine? line = some d := by
  rw [isSilent_iff, not_or, Bool.not_eq_true, ← ne_eq, Option.ne_none_iff_exists']

/-- A word that does not end in `c` is not at the end of a text that does. -/
theorem eq_append_of_concat {c : Char} {x y word : List Char} (hWord : word.getLast? ≠ some c)
    (hNonempty : word ≠ []) (h : line ++ [c] = x ++ word ++ y) :
    ∃ z, y = z ++ [c] ∧ line = x ++ word ++ z := by
  rcases List.eq_nil_or_concat y with rfl | ⟨z, d, rfl⟩
  · have hLast := congrArg List.getLast? h
    rw [List.append_nil, List.getLast?_concat, List.getLast?_append_of_ne_nil _ hNonempty] at hLast
    exact absurd hLast.symm hWord
  · rw [List.concat_eq_append, ← List.append_assoc] at h
    obtain ⟨hLine, hEnd⟩ := List.append_inj' h rfl
    exact ⟨z, by rw [List.concat_eq_append, hEnd], hLine⟩

/-- No noise is made by a carriage return. -/
theorem IsNoise.of_append_return (h : IsNoise (line ++ ['\r'])) : IsNoise line := by
  rcases h with ⟨x, y, hLine⟩ | ⟨x, hLine⟩ | ⟨x, y, hLine⟩
  · obtain ⟨z, -, hRest⟩ := eq_append_of_concat (by decide) (by decide) hLine
    exact .inl ⟨x, z, hRest⟩
  · rw [← List.append_nil ("warning: ".toList ++ x ++ _)] at hLine
    obtain ⟨z, hNil, -⟩ := eq_append_of_concat (by decide) (by decide) hLine
    simp at hNil
  · obtain ⟨z, -, hRest⟩ := eq_append_of_concat (by decide) (by decide) hLine
    exact .inr (.inr ⟨x, z, hRest⟩)

theorem IsSilent.of_append_return (hLine : '\n' ∉ line) (h : IsSilent (line ++ ['\r'])) :
    IsSilent line := by
  rcases h with hBlank | hNoise | hUnread
  · rw [isBlankText, List.all_append, Bool.and_eq_true] at hBlank
    exact .inl hBlank.1
  · exact .inr (.inl hNoise.of_append_return)
  · refine .inr (.inr ?_)
    rw [Option.eq_none_iff_forall_ne_some]
    intro d hRead
    rw [ofLine?_append hLine (by decide) hRead] at hUnread
    cases hUnread

theorem IsSilent.closeLine (hLine : '\n' ∉ line) (h : IsSilent line) :
    IsSilent (closeLine line.reverse) := by
  rcases closeLine_cases line with hSame | hReturn
  · rwa [hSame]
  · rw [hReturn] at hLine h
    exact .of_append_return (fun hMem => hLine (List.mem_append_left _ hMem)) h

/-! ## Whole outputs -/

/-- What an output shows are the diagnostics of its lines that are not silent, in their order. -/
theorem forall₂_ofOutput (output : List Char) :
    List.Forall₂ (fun line d => ofLine? line = some d)
      ((lines output).filter (¬ IsSilent ·)) (ofOutput output) := by
  rw [ofOutput]
  induction lines output with
  | nil => exact .nil
  | cons line rest ih =>
      by_cases hSilent : IsSilent line
      · rw [List.filter_cons_of_neg (by simpa using hSilent)]
        cases hNoise : isNoise line with
        | true => rwa [List.filter_cons_of_neg (by simp [hNoise])]
        | false =>
            have hUnread := (isSilent_iff.mp hSilent).resolve_left (by simp [hNoise])
            rwa [List.filter_cons_of_pos (by simp [hNoise]), List.filterMap_cons_none hUnread]
      · obtain ⟨hNoise, d, hRead⟩ := not_isSilent_iff.mp hSilent
        rw [List.filter_cons_of_pos (by simpa using hSilent),
          List.filter_cons_of_pos (by simp [hNoise]), List.filterMap_cons_some hRead]
        exact .cons hRead ih

theorem ofOutput_of_silent (h : ∀ line ∈ lines output, IsSilent line) : ofOutput output = [] := by
  have hShown := forall₂_ofOutput output
  have hNone : (lines output).filter (¬ IsSilent ·) = [] := by
    simpa [List.filter_eq_nil_iff] using h
  rwa [hNone, List.forall₂_nil_left_iff] at hShown

/-- An output can be cut behind the end of a line. -/
theorem ofOutput_append (ha : Ended a) (b : List Char) :
    ofOutput (a ++ b) = ofOutput a ++ ofOutput b := by
  simp only [ofOutput, lines_append ha, List.filter_append, List.filterMap_append]

/-- Silent lines may be put between lines. -/
theorem ofOutput_insert (ha : Ended a) (hw : Ended w) (hSilent : ∀ line ∈ lines w, IsSilent line)
    (b : List Char) : ofOutput (a ++ (w ++ b)) = ofOutput (a ++ b) := by
  rw [ofOutput_append ha, ofOutput_append hw, ofOutput_of_silent hSilent, List.nil_append,
    ofOutput_append ha]

/-- It makes no difference whether the last line is ended, unless that takes a carriage return from
it. -/
theorem ofOutput_concat_lineFeed (h : a.getLast? ≠ some '\r') :
    ofOutput (a ++ ['\n']) = ofOutput a := by
  obtain ⟨front, last, rfl, hFront, hLast⟩ := exists_ended_append a
  rw [List.append_assoc, ofOutput_append hFront, ofOutput_append hFront]
  congr 1
  by_cases hNil : last = []
  · rw [hNil]
    exact ofOutput_of_silent (by decide)
  · have hOpen : closeLine last.reverse = last := (closeLine_cases last).resolve_right fun hReturn =>
      h (by rw [hReturn, ← List.append_assoc, List.getLast?_concat])
    rw [ofOutput, ofOutput, lines_lineFeed hLast, lines_of_not_mem hLast, hOpen,
      if_neg (by simpa using hNil)]

/-- **Outputs are read line by line.** An output can be cut behind the end of any line. A line that is
blank, noise, or not read as a diagnostic makes no difference wherever it is put between lines, with
either end or as the last line without one. If there is a last line without an end it may be given
one, but for a carriage return that would be taken into it. What is shown are the diagnostics of the
other lines, each read by itself, in their order. -/
theorem ofOutput_by_line :
    (∀ a b, Ended a → ofOutput (a ++ b) = ofOutput a ++ ofOutput b) ∧
    (∀ a line b, Ended a → '\n' ∉ line →
      (isBlankText line = true ∨ IsNoise line ∨ ofLine? line = none) →
      ofOutput (a ++ (line ++ '\n' :: b)) = ofOutput (a ++ b) ∧
      ofOutput (a ++ (line ++ '\r' :: '\n' :: b)) = ofOutput (a ++ b) ∧
      ofOutput (a ++ line) = ofOutput a) ∧
    (∀ a, a.getLast? ≠ some '\r' → ofOutput (a ++ ['\n']) = ofOutput a) ∧
    ∀ output, List.Forall₂ (fun line d => ofLine? line = some d)
      ((lines output).filter (¬ IsSilent ·)) (ofOutput output) := by
  refine ⟨fun a b ha => ofOutput_append ha b, ?_, fun a h => ofOutput_concat_lineFeed h,
    forall₂_ofOutput⟩
  intro a line b ha hLine hSilent
  refine ⟨?_, ?_, ?_⟩
  · have hOne : ∀ l ∈ lines (line ++ ['\n']), IsSilent l := by
      rw [lines_lineFeed hLine, List.forall_mem_singleton]
      exact IsSilent.closeLine hLine hSilent
    have hInsert := ofOutput_insert ha (ended_append_lineFeed line) hOne b
    rwa [List.append_assoc] at hInsert
  · have hOne : ∀ l ∈ lines (line ++ ['\r', '\n']), IsSilent l := by
      rw [lines_returnLineFeed hLine, List.forall_mem_singleton]
      exact hSilent
    have hEnded : Ended (line ++ ['\r', '\n']) := .inr (by simp)
    have hInsert := ofOutput_insert ha hEnded hOne b
    rwa [List.append_assoc] at hInsert
  · have hOne : ∀ l ∈ lines line, IsSilent l := by
      rw [lines_of_not_mem hLine]
      split
      · exact List.forall_mem_nil _
      · exact List.forall_mem_singleton.mpr hSilent
    rw [ofOutput_append ha, ofOutput_of_silent hOne, List.append_nil]

/-- Noise that has the form of a diagnostic. -/
def noisyError : List Char := "warning: a:1:2: error: b incompatible with c".toList

theorem ofOutput_by_line_noisyError :
    Ended "x.c:1:2: error: d\r\n".toList ∧ '\n' ∉ noisyError ∧ IsNoise noisyError ∧
      ofLine? noisyError = some ⟨"warning: a", 1, 2, .error, "b incompatible with c"⟩ ∧
      ofOutput ("x.c:1:2: error: d\r\n".toList ++ (noisyError ++ '\n' :: "y.c:3:4: note: e".toList)) =
        [⟨"x.c", 1, 2, .error, "d"⟩, ⟨"y.c", 3, 4, .note, "e"⟩] ∧
      ofOutput ("y.c:3:4: note: e".toList ++ ['\n']) = [⟨"y.c", 3, 4, .note, "e"⟩] := by
  have hEnded : Ended "x.c:1:2: error: d\r\n".toList := .inr (by decide)
  have hLine : '\n' ∉ noisyError := by decide
  have hNoise : IsNoise noisyError := isNoise_iff.mp (by decide)
  obtain ⟨hCut, hInsert, hEnd, -⟩ := ofOutput_by_line
  obtain ⟨hHere, -, -⟩ := hInsert _ _ "y.c:3:4: note: e".toList hEnded hLine (.inr (.inl hNoise))
  refine ⟨hEnded, hLine, hNoise, by decide, ?_, ?_⟩
  · rw [hHere, hCut _ _ hEnded]
    decide
  · rw [hEnd _ (by decide)]
    decide

end FaultBench.Diagnostic

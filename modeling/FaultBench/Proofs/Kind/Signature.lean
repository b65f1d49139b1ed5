import FaultBench.Kind.Signature
import FaultBench.Proofs.Text.Quoted

/-!
# Listed signatures

A signature is listed as a quoted text or as a pattern between slashes. From what is listed one can
tell which signature it is (`describe_eq_iff`): quoted texts are read back, and they begin with a mark
that no pattern is listed with. A pattern is listed as it is, with its line feeds, but a quoted text
lies on one line.
-/

namespace FaultBench.Signature

theorem toList_describe (s : Signature) : s.describe.toList =
    match s.mode with
    | .substring => Text.quoted s.pattern.toList
    | .regex => '/' :: (s.pattern.toList ++ ['/']) := by
  unfold describe
  cases s.mode with
  | substring => exact String.toList_ofList
  | regex => simp

/-- How a signature is listed begins with a mark for its mode. -/
theorem head?_describe (s : Signature) : s.describe.toList.head? =
    match s.mode with
    | .substring => some '"'
    | .regex => some '/' := by
  rw [toList_describe]
  cases s.mode <;> rfl

theorem mode_eq_of_describe {s t : Signature} (h : s.describe = t.describe) : s.mode = t.mode := by
  have hMarks := congrArg (fun text => text.toList.head?) h
  simp only [head?_describe] at hMarks
  cases hs : s.mode <;> cases ht : t.mode <;> simp_all

theorem pattern_eq_of_describe {s t : Signature} (h : s.describe = t.describe) :
    s.pattern = t.pattern := by
  have hMode := mode_eq_of_describe h
  unfold describe at h
  rw [← hMode] at h
  cases hs : s.mode with
  | substring =>
      rw [hs] at h
      exact Text.quote_injective h
  | regex =>
      rw [hs] at h
      exact (String.append_right_inj "/").mp ((String.append_left_inj "/").mp h)

/-- **Listed signatures.** Two signatures are listed alike only if they have the same pattern and the
same mode, and a text that is looked for is listed on one line, whatever it is. -/
theorem describe_eq_iff :
    (∀ s t : Signature, s.describe = t.describe ↔ s.pattern = t.pattern ∧ s.mode = t.mode) ∧
    ∀ pattern, '\n' ∉ (describe ⟨pattern, .substring⟩).toList := by
  refine ⟨fun s t => ⟨fun h => ⟨pattern_eq_of_describe h, mode_eq_of_describe h⟩, ?_⟩, ?_⟩
  · rintro ⟨hPattern, hMode⟩
    rw [describe, describe, hPattern, hMode]
  · exact fun pattern => Text.lineFeed_not_mem_quote pattern

end FaultBench.Signature

import FaultBench.Proofs.Program.Layout
import FaultBench.Proofs.Program.Ranges

/-!
# Parameters that a class uses

What a program does depends on the parameters that its class uses, and those alone are looked at
when its variant is checked. Two variants that agree on them have the same program, but for the line
of the comment that tells the whole variant (`synthesize_of_agree`).
-/

namespace FaultBench

/-- A parameter of programs. -/
inductive Parameter
  | allocSize
  | bufferSize
  | overflowBy
  | callDepth
  | leakCount
  | access
  | spinForever
  deriving DecidableEq, Repr

/-- The parameters that the programs of a class use. -/
def FaultClass.uses (c : FaultClass) : List Parameter :=
  [.callDepth, .spinForever] ++
  match c with
  | .nullDeref => [.access]
  | .doubleFree => [.allocSize]
  | .leak => [.allocSize, .leakCount]
  | .stackBufferOverflow => [.bufferSize, .overflowBy]
  | .stackUseAfterScope => [.bufferSize]

namespace Parameter

/-- The variants have one value of the parameter. -/
def Same (v w : Variant) : Parameter → Prop
  | .allocSize => v.allocSize = w.allocSize
  | .bufferSize => v.bufferSize = w.bufferSize
  | .overflowBy => v.overflowBy = w.overflowBy
  | .callDepth => v.callDepth = w.callDepth
  | .leakCount => v.leakCount = w.leakCount
  | .access => v.access = w.access
  | .spinForever => v.spinForever = w.spinForever

/-- The value of the parameter is in its range. -/
def InRange (v : Variant) : Parameter → Prop
  | .allocSize => 1 ≤ v.allocSize ∧ v.allocSize ≤ 2 ^ 20
  | .bufferSize => 1 ≤ v.bufferSize ∧ v.bufferSize ≤ 4096
  | .overflowBy => 1 ≤ v.overflowBy ∧ v.overflowBy ≤ 4096
  | .callDepth => v.callDepth ≤ 32
  | .leakCount => 1 ≤ v.leakCount ∧ v.leakCount ≤ 64
  | .access | .spinForever => True

end Parameter

namespace Variant

variable {v w : Variant} {c : FaultClass}

/-- The variants agree on what programs of the class use. -/
def Agree (v w : Variant) (c : FaultClass) : Prop := ∀ p ∈ c.uses, p.Same v w

theorem inRange_iff : v.InRange c ↔ ∀ p ∈ c.uses, p.InRange v := by
  cases c <;>
    simp [InRange, FaultClass.uses, Parameter.InRange, maxCallDepth, maxAllocSize, maxBufferSize,
      maxOverflowBy, maxLeakCount]

theorem Agree.callDepth (h : v.Agree w c) : v.callDepth = w.callDepth :=
  h .callDepth (by simp [FaultClass.uses])

theorem Agree.spinForever (h : v.Agree w c) : v.spinForever = w.spinForever :=
  h .spinForever (by simp [FaultClass.uses])

theorem Agree.flaw?_eq (h : v.Agree w c) : v.flaw? c = w.flaw? c := by
  have hLimits : v.limits c = w.limits c := by
    cases c <;> simp_all [Agree, FaultClass.uses, Parameter.Same, limits]
  unfold flaw?
  rw [h.callDepth, hLimits]

end Variant

namespace Synthesis

variable {v w : Variant} {c : FaultClass}

theorem globals_eq (h : v.Agree w c) : globals c v = globals c w := by
  unfold globals
  rw [h.spinForever]
  cases c <;> simp_all [Variant.Agree, FaultClass.uses, Parameter.Same]

theorem helpers_eq (h : v.Agree w c) : helpers c v = helpers c w := by
  cases c <;> simp_all [Variant.Agree, FaultClass.uses, Parameter.Same, helpers]

theorem faultSite_eq (h : v.Agree w c) : faultSite c v = faultSite c w := by
  have hLines : faultLines c v = faultLines c w := by
    cases c <;> simp_all [Variant.Agree, FaultClass.uses, Parameter.Same, faultLines]
  unfold faultSite
  rw [h.spinForever, hLines]

/-- Behind the comment, the sources of variants that agree are equal. -/
theorem code_eq {k : Kind} (h : v.Agree w k.faultClass) :
    (source k v).code = (source k w).code := by
  have hGlobals : (source k v).globals = (source k w).globals := globals_eq h
  have hFunctions : (source k v).functions = (source k w).functions := by
    simp only [source, helpers_eq h, faultSite_eq h, h.callDepth]
  unfold Source.code Source.codeLines Source.globalLines Source.functionLines
  rw [hGlobals, hFunctions]
  rfl

end Synthesis

/-- The texts are equal but for what one line of their first comment says of the variant. -/
def EqualButVariantLine (s t : String) : Prop :=
  ∃ before note note' after : List Char,
    ¬ "*/".toList <:+: before ∧ '\n' ∉ note ∧ '\n' ∉ note' ∧
    s.toList = before ++ '\n' :: " * variant:".toList ++ note ++ '\n' :: after ∧
    t.toList = before ++ '\n' :: " * variant:".toList ++ note' ++ '\n' :: after

namespace Synthesis

open Text

variable {v w : Variant} {k : Kind}

/-- What the comment says in front of the line on the variant. -/
def heading (k : Kind) : List Char :=
  "/* fault-corpus program\n * kind:    ".toList ++ k.id.text.toList ++
    "\n * class:   ".toList ++ k.faultClass.name.toList

/-- The comment does not end in front of the line on the variant. -/
theorem not_infix_heading : ¬ "*/".toList <:+: heading k := by
  intro hInfix
  have hSlash : '/' ∉ (heading k).tail := by
    unfold heading
    simp [k.id.isWord_text.not_mem, k.faultClass.isWord_name.not_mem, KindId.isIdChar]
  have hHead : heading k = '/' :: (heading k).tail := by
    unfold heading
    simp
  rw [hHead] at hInfix
  rcases List.infix_cons_iff.mp hInfix with hHere | hLater
  · have hFirst := (List.cons_prefix_cons.mp hHere).1
    exact absurd hFirst (by decide)
  · exact hSlash (hLater.subset (by decide))

theorem exists_variantNote (v : Variant) : ∃ note, IsNote note ∧
    (variantNote v).toList = "variant:".toList ++ note := by
  have hAll := isNote_variantNote v
  have hMark : "variant: alloc_size=".toList = "variant:".toList ++ " alloc_size=".toList := by
    decide
  rw [toList_variantNote, hMark, List.append_assoc] at hAll ⊢
  exact ⟨_, (List.forall_mem_append.mp hAll).2, rfl⟩

theorem chars_source : (source k v).chars = heading k ++ '\n' :: " * ".toList ++
    (variantNote v).toList ++ '\n' :: " */".toList ++ (source k v).code := by
  rw [Source.chars_eq, remark_source]
  unfold heading
  simp

theorem equalButVariantLine (h : v.Agree w k.faultClass) :
    EqualButVariantLine (source k v).text (source k w).text := by
  obtain ⟨note, hNote, hText⟩ := exists_variantNote v
  obtain ⟨note', hNote', hText'⟩ := exists_variantNote w
  refine ⟨heading k, note, note', " */".toList ++ (source k v).code, not_infix_heading,
    hNote.not_mem rfl, hNote'.not_mem rfl, ?_, ?_⟩
  · rw [Source.text, String.toList_ofList, chars_source, hText]
    simp
  · rw [Source.text, String.toList_ofList, chars_source, hText', code_eq h]
    simp

end Synthesis

namespace Kind

variable {v w : Variant} {k : Kind}

/-- **What a class does not use is of no account.** -/
theorem synthesize_of_agree (k : Kind) :
    (∀ v w : Variant, v.Agree w k.faultClass →
      (∃ e, k.synthesize v = .error e ∧ k.synthesize w = .error e) ∨
        ∃ p q, k.synthesize v = .ok p ∧ k.synthesize w = .ok q ∧
          EqualButVariantLine p.source q.source) ∧
    ∀ v : Variant, (∃ p, k.synthesize v = .ok p) ↔ ∀ p ∈ k.faultClass.uses, p.InRange v := by
  refine ⟨fun v w h => ?_, fun v => ?_⟩
  · cases hFlaw : v.flaw? k.faultClass with
    | some flaw =>
        have hFlaw' : w.flaw? k.faultClass = some flaw := h.flaw?_eq ▸ hFlaw
        exact .inl ⟨_, synthesize_eq_error_iff.mpr ⟨flaw, hFlaw, rfl⟩,
          synthesize_eq_error_iff.mpr ⟨flaw, hFlaw', rfl⟩⟩
    | none =>
        have hFlaw' : w.flaw? k.faultClass = none := h.flaw?_eq ▸ hFlaw
        exact .inr ⟨_, _,
          synthesize_eq_ok_iff.mpr ⟨Variant.flaw?_eq_none_iff.mp hFlaw, rfl⟩,
          synthesize_eq_ok_iff.mpr ⟨Variant.flaw?_eq_none_iff.mp hFlaw', rfl⟩,
          Synthesis.equalButVariantLine h⟩
  · rw [exists_synthesize_iff, Variant.inRange_iff]

/-- Leaks have no buffers. -/
theorem synthesize_of_agree_leak :
    Variant.Agree { leakCount := 3 } { leakCount := 3, bufferSize := -9, access := .read } .leak ∧
      ∃ p q, (builtin .leak).synthesize { leakCount := 3 } = .ok p ∧
        (builtin .leak).synthesize { leakCount := 3, bufferSize := -9, access := .read } = .ok q ∧
        EqualButVariantLine p.source q.source := by
  have hAgree : Variant.Agree { leakCount := 3 }
      { leakCount := 3, bufferSize := -9, access := .read } .leak := by
    simp [Variant.Agree, FaultClass.uses, Parameter.Same]
  obtain ⟨hTwo, hOne⟩ := synthesize_of_agree (builtin .leak)
  obtain ⟨p, hp⟩ := (hOne { leakCount := 3 }).mpr (by
    simp [builtin, ofClass, FaultClass.uses, Parameter.InRange])
  rcases hTwo _ _ hAgree with ⟨e, hError, -⟩ | hEqual
  · exact absurd (hp.symm.trans hError) (by simp)
  · exact ⟨hAgree, hEqual⟩

end Kind

end FaultBench

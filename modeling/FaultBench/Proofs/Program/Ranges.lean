import FaultBench.Program.Synthesis
import FaultBench.Proofs.Fallible

/-!
# Ranges of parameters

A class has a program for a variant exactly if the parameters that it uses are in their ranges
(`Variant.flaw?_eq_none_iff`). Writing a program fails for no other reason, and then it says which
kind the variant is of (`Kind.synthesize_eq_error_iff`).
-/

namespace FaultBench

namespace Variant

/-- The parameters of the variant that programs of the class use are in their ranges. -/
def InRange (v : Variant) (c : FaultClass) : Prop :=
  v.callDepth ≤ maxCallDepth ∧
    match c with
    | .nullDeref => True
    | .doubleFree => 1 ≤ v.allocSize ∧ v.allocSize ≤ maxAllocSize
    | .leak =>
      (1 ≤ v.allocSize ∧ v.allocSize ≤ maxAllocSize) ∧
        1 ≤ v.leakCount ∧ (v.leakCount : Int) ≤ maxLeakCount
    | .stackBufferOverflow =>
      (1 ≤ v.bufferSize ∧ v.bufferSize ≤ maxBufferSize) ∧
        1 ≤ v.overflowBy ∧ v.overflowBy ≤ maxOverflowBy
    | .stackUseAfterScope => 1 ≤ v.bufferSize ∧ v.bufferSize ≤ maxBufferSize

variable {v : Variant} {c : FaultClass}

theorem Limit.flaw?_eq_none_iff {l : Limit} : l.flaw? = none ↔ 1 ≤ l.2.2 ∧ l.2.2 ≤ l.2.1 := by
  unfold Limit.flaw?
  split <;> simp [*]

/-- Nothing keeps a class from having a program for a variant if and only if all is in range. -/
theorem flaw?_eq_none_iff : v.flaw? c = none ↔ v.InRange c := by
  have hDepth : v.flaw? c = none ↔
      v.callDepth ≤ maxCallDepth ∧ ∀ l ∈ v.limits c, 1 ≤ l.2.2 ∧ l.2.2 ≤ l.2.1 := by
    unfold flaw?
    split
    next hDeep =>
      have hNot : ¬ v.callDepth ≤ maxCallDepth := Nat.not_le.mpr hDeep
      simp [hNot]
    next hShallow =>
      rw [List.findSome?_eq_none_iff]
      simp only [Limit.flaw?_eq_none_iff]
      exact (and_iff_right (Nat.not_lt.mp hShallow)).symm
  rw [hDepth]
  cases c with
  | leak =>
      have hLeak : (1 : Int) ≤ v.leakCount ↔ 1 ≤ v.leakCount := by omega
      simp [limits, InRange, hLeak]
  | _ => simp [limits, InRange]

instance : Decidable (v.InRange c) := decidable_of_iff _ flaw?_eq_none_iff

end Variant

namespace Kind

variable {k : Kind} {v : Variant} {e : SetupError} {p : Program}

theorem synthesize_eq_ok_iff : k.synthesize v = .ok p ↔
    v.InRange k.faultClass ∧
      p = .ofSource k.id k.faultClass v (Synthesis.source k v).text := by
  rw [← Variant.flaw?_eq_none_iff]
  unfold synthesize
  cases v.flaw? k.faultClass <;> simp [eq_comm]

theorem synthesize_eq_error_iff : k.synthesize v = .error e ↔
    ∃ flaw, v.flaw? k.faultClass = some flaw ∧ e = .unsupportedVariant k.id flaw := by
  unfold synthesize
  cases v.flaw? k.faultClass <;> simp [eq_comm]

theorem exists_synthesize_iff : (∃ p, k.synthesize v = .ok p) ↔ v.InRange k.faultClass := by
  simp [synthesize_eq_ok_iff]

theorem kind_of_synthesizeDefault (h : k.synthesizeDefault = .ok p) : p.kind = k.id :=
  congrArg Program.kind (synthesize_eq_ok_iff.mp h).2

theorem exists_synthesizeDefault_iff :
    (∃ p, k.synthesizeDefault = .ok p) ↔ k.variant.InRange k.faultClass :=
  exists_synthesize_iff

theorem synthesizeDefault_eq_error_iff : k.synthesizeDefault = .error e ↔
    ∃ flaw, k.variant.flaw? k.faultClass = some flaw ∧ e = .unsupportedVariant k.id flaw :=
  synthesize_eq_error_iff

end Kind

end FaultBench

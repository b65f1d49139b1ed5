import FaultBench.Exchange.Program
import FaultBench.Proofs.Exchange.Records

/-!
# Kinds, programs and manifests, written and read

The exchanged forms of kinds, of patches of variants, of programs and of manifests are read back
(`Kind.recovers`, `VariantPatch.recovers`, `Program.recovers`, `Manifest.recovers`). The numbers of
a variant must have the sizes of their fields.
-/

namespace FaultBench

open Decoder

variable {n : Nat}

theorem KindId.recovers (id : KindId) : Recovers decoder n id.toDatum id := by
  refine ⟨fun d => ?_, .text _⟩
  have hRead : ofString? id.text = some id := by rw [ofString?, ofString_text]; rfl
  exact hRead

theorem FaultClass.recovers (c : FaultClass) : Recovers decoder n c.toDatum c :=
  ⟨fun _ => by cases c <;> rfl, .text _⟩

theorem Construct.recovers (c : Construct) : Recovers decoder n c.toDatum c :=
  ⟨fun _ => by cases c <;> rfl, .text _⟩

theorem MatchMode.recovers (m : MatchMode) : Recovers decoder n m.toDatum m :=
  ⟨fun _ => by cases m <;> rfl, .text _⟩

theorem Access.recovers (a : Access) : Recovers decoder n a.toDatum a :=
  ⟨fun _ => by cases a <;> rfl, .text _⟩

theorem Signature.recovers (s : Signature) : Recovers decoder (n + 1) s.toDatum s := by
  have hMode := MatchMode.recovers (n := n) s.mode
  refine ⟨fun d => ?_, .fields ?_⟩
  · simp [decoder, toDatum, hMode.reads]
  · simp [hMode.fits]

/-! ## Variants -/

namespace Variant

/-- Every number has the size of its field. -/
structure Writable (v : Variant) : Prop where
  allocSize : IsInt64 v.allocSize
  bufferSize : IsInt64 v.bufferSize
  overflowBy : IsInt64 v.overflowBy
  callDepth : IsNat32 v.callDepth
  leakCount : IsNat32 v.leakCount

theorem recovers {v : Variant} (h : v.Writable) : Recovers decoder (n + 1) v.toDatum v := by
  have hAlloc := Recovers.int64 (n := n) h.allocSize
  have hBuffer := Recovers.int64 (n := n) h.bufferSize
  have hOverflow := Recovers.int64 (n := n) h.overflowBy
  have hDepth := Recovers.nat32 (n := n) h.callDepth
  have hLeaks := Recovers.nat32 (n := n) h.leakCount
  have hAccess := Access.recovers (n := n) v.access
  refine ⟨fun d => ?_, .fields ?_⟩
  · simp [decoder, toDatum, fieldNames, hAlloc.reads, hBuffer.reads, hOverflow.reads,
      hDepth.reads, hLeaks.reads, hAccess.reads]
  · simp [hAlloc.fits, hBuffer.fits, hOverflow.fits, hDepth.fits, hLeaks.fits, hAccess.fits]

end Variant

namespace VariantPatch

/-- Every number that is set has the size of its field. -/
structure Writable (p : VariantPatch) : Prop where
  allocSize : ∀ k ∈ p.allocSize, IsInt64 k
  bufferSize : ∀ k ∈ p.bufferSize, IsInt64 k
  overflowBy : ∀ k ∈ p.overflowBy, IsInt64 k
  callDepth : ∀ k ∈ p.callDepth, IsNat32 k
  leakCount : ∀ k ∈ p.leakCount, IsNat32 k

theorem recovers {p : VariantPatch} (h : p.Writable) : Recovers decoder (n + 1) p.toDatum p := by
  have hAlloc := Recovers.ofOption (n := n) (fun k hk => .int64 (h.allocSize k hk)) nofun
  have hBuffer := Recovers.ofOption (n := n) (fun k hk => .int64 (h.bufferSize k hk)) nofun
  have hOverflow := Recovers.ofOption (n := n) (fun k hk => .int64 (h.overflowBy k hk)) nofun
  have hDepth := Recovers.ofOption (n := n) (fun k hk => .nat32 (h.callDepth k hk)) nofun
  have hLeaks := Recovers.ofOption (n := n) (fun k hk => .nat32 (h.leakCount k hk)) nofun
  have hAccess := Recovers.ofOption (n := n) (o := p.access) (fun a _ => Access.recovers a) nofun
  have hSpin := Recovers.ofOption (n := n) (o := p.spinForever) (fun b _ => .bool b) nofun
  refine ⟨fun d => ?_, .fields ?_⟩
  · simp [decoder, toDatum, Variant.fieldNames, hAlloc.reads, hBuffer.reads, hOverflow.reads,
      hDepth.reads, hLeaks.reads, hAccess.reads, hSpin.reads]
  · simp [hAlloc.fits, hBuffer.fits, hOverflow.fits, hDepth.fits, hLeaks.fits, hAccess.fits,
      hSpin.fits]

end VariantPatch

/-! ## Kinds and programs -/

/-- The numbers of the kind's variant have the sizes of their fields. -/
def Kind.Writable (k : Kind) : Prop := k.variant.Writable

theorem Kind.recovers {k : Kind} (h : k.Writable) : Recovers decoder (n + 2) k.toDatum k := by
  have hId := KindId.recovers (n := n + 1) k.id
  have hClass := FaultClass.recovers (n := n + 1) k.faultClass
  have hConstructs := Recovers.list (n := n) (l := k.constructs) fun c _ => Construct.recovers c
  have hSignature := Signature.recovers (n := n) k.signature
  have hVariant := Variant.recovers (n := n) h
  refine ⟨fun d => ?_, .fields ?_⟩
  · simp [decoder, toDatum, hId.reads, hClass.reads, hConstructs.reads, hSignature.reads,
      hVariant.reads]
  · simp [hId.fits, hClass.fits, hConstructs.fits, hSignature.fits, hVariant.fits]

/-- The numbers of the program's variant have the sizes of their fields. -/
def Program.Writable (p : Program) : Prop := p.variant.Writable

theorem Program.recovers {p : Program} (h : p.Writable) :
    Recovers decoder (n + 2) p.toDatum p := by
  have hKind := KindId.recovers (n := n + 1) p.kind
  have hClass := FaultClass.recovers (n := n + 1) p.faultClass
  have hVariant := Variant.recovers (n := n) h
  refine ⟨fun d => ?_, .fields ?_⟩
  · simp [decoder, toDatum, hKind.reads, hClass.reads, hVariant.reads]
  · simp [hKind.fits, hClass.fits, hVariant.fits]

theorem ManifestEntry.recovers (e : ManifestEntry) : Recovers decoder (n + 1) e.toDatum e := by
  have hKind := KindId.recovers (n := n) e.kind
  have hClass := FaultClass.recovers (n := n) e.faultClass
  refine ⟨fun d => ?_, .fields ?_⟩
  · simp [decoder, toDatum, hKind.reads, hClass.reads]
  · simp [hKind.fits, hClass.fits]

theorem Manifest.recovers (m : Manifest) : Recovers decoder (n + 3) m.toDatum m := by
  have hPrograms := Recovers.list (n := n + 1) (l := m.programs) fun e _ => ManifestEntry.recovers e
  refine ⟨fun d => ?_, .fields ?_⟩
  · simp [decoder, toDatum, hPrograms.reads]
  · simp [hPrograms.fits]

end FaultBench

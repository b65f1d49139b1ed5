import FaultBench.Proofs.Exchange.Configs
import FaultBench.Proofs.Exchange.Ids
import FaultBench.Proofs.Exchange.Reports

/-!
# Stored values

Errors of runs, kinds, variants, patches of variants, programs, manifests, diagnostics and
configurations survive their JSON, and the ids in what is read from any JSON text are texts of their
grammar that stand in it: `Json.stored_values`.
-/

namespace FaultBench

/-- Whatever is read from the datum has no ids but those of the grammar that stand in it. -/
structure Datum.KeepsIds (x : Datum) : Prop where
  id : ∀ id, KindId.decoder .json x = some id ↔ ∃ s, x = .text s ∧ KindId.Grammar s ∧ id.text = s
  error : ∀ e, RunError.decoder .json x = some e → ∀ id ∈ e.kind?, x.HoldsId id
  kind : ∀ k, Kind.decoder .json x = some k → x.HoldsId k.id
  program : ∀ p, Program.decoder .json x = some p → x.HoldsId p.kind
  manifest : ∀ m, Manifest.decoder .json x = some m → ∀ e ∈ m.programs, x.HoldsId e.kind
  verdict : ∀ v, Verdict.decoder .json x = some v → x.HoldsId v.kind
  report : ∀ r, Report.decoder .json x = some r → ∀ id ∈ r.kinds, x.HoldsId id

theorem Datum.keepsIds (x : Datum) : x.KeepsIds where
  id _ := KindId.decoder_eq_some_iff
  error _ h := RunError.holdsId h
  kind _ h := Kind.holdsId h
  program _ h := Program.holdsId h
  manifest _ h := Manifest.holdsId h
  verdict _ h := Verdict.holdsId h
  report _ h := Report.holdsId h

open Decoder

namespace Json

/-- **Stored values survive their JSON**, and no text is read as a value with an id that is not in
the grammar. -/
theorem stored_values :
    (∀ e : RunError, e.Writable → Survives RunError.decoder e.toDatum e) ∧
    (∀ k : Kind, k.Writable → Survives Kind.decoder k.toDatum k) ∧
    (∀ v : Variant, v.Writable → Survives Variant.decoder v.toDatum v) ∧
    (∀ p : VariantPatch, p.Writable → Survives VariantPatch.decoder p.toDatum p) ∧
    (∀ p : Program, p.Writable → Survives Program.decoder p.toDatum p) ∧
    (∀ m : Manifest, Survives Manifest.decoder m.toDatum m) ∧
    (∀ d : Diagnostic, d.Writable → Survives Diagnostic.decoder d.toDatum d) ∧
    (∀ c : Config, c.Writable → Survives Config.decoder c.toDatum c) ∧
    (∀ s x, read? s = some x → x.KeepsIds) := by
  refine ⟨fun e h => ?error, fun k h => ?kind, fun v h => ?variant, fun p h => ?patch,
    fun p h => ?program, fun m => ?manifest, fun d h => ?diagnostic, fun c h => ?config,
    fun _ x _ => x.keepsIds⟩
  case error => exact (RunError.recovers (n := 0) h).survives (by decide)
  case kind => exact (Kind.recovers (n := 0) h).survives (by decide)
  case variant => exact (Variant.recovers (n := 0) h).survives (by decide)
  case patch => exact (VariantPatch.recovers (n := 0) h).survives (by decide)
  case program => exact (Program.recovers (n := 0) h).survives (by decide)
  case manifest => exact (Manifest.recovers (n := 0) m).survives (by decide)
  case diagnostic => exact (Diagnostic.recovers (n := 0) h).survives (by decide)
  case config => exact (Config.recovers (n := 0) h).survives (by decide)

/-- Numbers at their bounds. -/
def extremeVariant : Variant :=
  ⟨-0x8000000000000000, 0x7fffffffffffffff, 0, 0xffffffff, 0, .read, true⟩

/-- Some numbers are set and others are not. -/
def sparsePatch : VariantPatch := { allocSize := some (-1), leakCount := some 0xffffffff }

def lateError : RunError := .timeout FaultClass.leak.canonicalId 0 0xffffffffffffffff

def extremeKind : Kind := { Kind.builtin .leak with variant := extremeVariant }

def extremeProgram : Program := .ofSource FaultClass.leak.canonicalId .leak extremeVariant "\"\x01"

def farNote : Diagnostic := ⟨"é", 0, 0xffffffff, .note, "\x1f"⟩

def patchedConfig : Config where
  toolchain := { env := [("A", "\\"), ("B", "")], cpuLimitSecs := none }
  kinds := [{ id := "not an id", variant := sparsePatch }]

theorem stored_values_samples :
    Survives RunError.decoder lateError.toDatum lateError ∧
    Survives Kind.decoder extremeKind.toDatum extremeKind ∧
    Survives Variant.decoder extremeVariant.toDatum extremeVariant ∧
    Survives VariantPatch.decoder sparsePatch.toDatum sparsePatch ∧
    Survives Program.decoder extremeProgram.toDatum extremeProgram ∧
    Survives Diagnostic.decoder farNote.toDatum farNote ∧
    Survives Config.decoder patchedConfig.toDatum patchedConfig ∧
    read? (write .compact extremeKind.toDatum) = some extremeKind.toDatum ∧
    extremeKind.toDatum.KeepsIds := by
  have hVariant : extremeVariant.Writable :=
    ⟨by decide, by decide, by decide, by decide, by decide⟩
  have hPatch : sparsePatch.Writable := ⟨by decide, nofun, nofun, nofun, by decide⟩
  have hError : lateError.Writable := ⟨by decide, by decide⟩
  have hNote : farNote.Writable := ⟨by decide, by decide⟩
  have hTools : patchedConfig.toolchain.Writable :=
    ⟨List.pairwise_pair.mpr (show "A" < "B" by decide), by decide, by decide, by decide, nofun⟩
  have hConfig : patchedConfig.Writable :=
    ⟨hTools, show IsNat64 4 by decide, fun e he => List.mem_singleton.mp he ▸ hPatch⟩
  have hFits := (Kind.recovers (n := 0) (k := extremeKind) hVariant).fits
  have hRead : read? (write .compact extremeKind.toDatum) = some extremeKind.toDatum :=
    read?_write .compact (hFits.mono (by decide))
  obtain ⟨error, kind, variant, patch, program, -, diagnostic, config, ids⟩ := stored_values
  exact ⟨error _ hError, kind _ hVariant, variant _ hVariant, patch _ hPatch, program _ hVariant,
    diagnostic _ hNote, config _ hConfig, hRead, ids _ _ hRead⟩

end Json

end FaultBench

import FaultBench.Exchange.Report
import FaultBench.Proofs.Exchange.Kinds
import FaultBench.Proofs.Time
import FaultBench.Proofs.Uuid

/-!
# Errors, diagnostics and reports, written and read

The exchanged forms of diagnostics and of errors of runs are read back (`Diagnostic.recovers`,
`RunError.recovers`). So is that of a verdict, among whose fields those of its status stand
(`Verdict.recovers`), and that of a report. A report is therefore the same after it was written as
JSON and read again: `Report.read_json`.
-/

namespace FaultBench

open Decoder

variable {n : Nat}

theorem ErrorCategory.recovers (c : ErrorCategory) : Recovers decoder n c.toDatum c :=
  ⟨fun _ => by cases c <;> rfl, .text _⟩

theorem Severity.recovers (s : Severity) : Recovers decoder n s.toDatum s :=
  ⟨fun _ => by cases s <;> rfl, .text _⟩

/-! ## Diagnostics -/

namespace Diagnostic

/-- Line and column have the size of their fields. -/
structure Writable (d : Diagnostic) : Prop where
  line : IsNat32 d.line
  column : IsNat32 d.column

theorem recovers {d : Diagnostic} (h : d.Writable) : Recovers decoder (n + 1) d.toDatum d := by
  have hLine := Recovers.nat32 (n := n) h.line
  have hColumn := Recovers.nat32 (n := n) h.column
  have hSeverity := Severity.recovers (n := n) d.severity
  refine ⟨fun d => ?_, .fields ?_⟩
  · simp [decoder, toDatum, hLine.reads, hColumn.reads, hSeverity.reads]
  · simp [hLine.fits, hColumn.fits, hSeverity.fits]

end Diagnostic

/-! ## Errors of runs -/

namespace RunError

/-- The times of an error have the size of their fields. -/
def Writable : RunError → Prop
  | .timeout _ elapsed limit => IsNat64 elapsed ∧ IsNat64 limit
  | _ => True

theorem fits {e : RunError} (h : e.Writable) : e.toDatum.Fits (n + 2) := by
  cases e with
  | compile kind detail diagnostics =>
      exact .fields (by simp [(KindId.recovers kind).fits, (Recovers.texts diagnostics).fits])
  | timeout kind elapsed limit =>
      exact .fields (by
        simp [(KindId.recovers kind).fits, (Recovers.nat64 h.1).fits, (Recovers.nat64 h.2).fits])
  | toolUnavailable tool reason => exact .fields (by simp)
  | workspace kind reason => exact .fields (by simp [(KindId.recovers kind).fits])
  | cancelled kind => exact .fields (by simp [(KindId.recovers kind).fits])
  | internal kind reason => exact .fields (by simp [(KindId.recovers kind).fits])

/-- The type of an error tells which other fields it has. -/
theorem decoder_fields {tag : String} {kvs : List (String × Datum)} (d : Dialect)
    (hNames : (kvs.map Prod.fst).Nodup) (hTag : "type" ∉ kvs.map Prod.fst)
    (hFits : (Datum.fields (("type", .text tag) :: kvs)).Fits n) :
    decoder d (.fields (("type", .text tag) :: kvs)) = ofTag tag (.fields kvs) := by
  have hAll : (("type", Datum.text tag) :: kvs).map Prod.fst |>.Nodup :=
    List.nodup_cons.mpr ⟨hTag, hNames⟩
  have hOthers : (("type", Datum.text tag) :: kvs).filter (·.1 != "type") = kvs := by
    rw [List.filter_cons_of_neg (by simp), List.filter_eq_self]
    intro kv hkv
    exact bne_iff_ne.mpr fun hEq => hTag (hEq ▸ List.mem_map_of_mem hkv)
  simp only [decoder, hFits.isWhole, Slots.atMostOnce_eq_lookup hAll, Slots.lookup_cons, if_true,
    hOthers]
  rfl

theorem recovers {e : RunError} (h : e.Writable) : Recovers decoder (n + 2) e.toDatum e := by
  refine ⟨fun d => ?_, fits h⟩
  have hFits := fits (n := 0) h
  have hKind (kind : KindId) := (KindId.recovers (n := 0) kind).reads
  cases e with
  | compile kind detail diagnostics =>
      have hDiagnostics := Recovers.texts (n := 0) diagnostics
      rw [toDatum, decoder_fields d (by simp) (by simp) hFits]
      simp [ofTag, hKind, hDiagnostics.reads]
  | timeout kind elapsed limit =>
      have hElapsed := Recovers.nat64 (n := 0) h.1
      have hLimit := Recovers.nat64 (n := 0) h.2
      rw [toDatum, decoder_fields d (by simp) (by simp) hFits]
      simp [ofTag, hKind, hElapsed.reads, hLimit.reads]
  | toolUnavailable tool reason =>
      rw [toDatum, decoder_fields d (by simp) (by simp) hFits]
      simp [ofTag]
  | workspace kind reason =>
      rw [toDatum, decoder_fields d (by simp) (by simp) hFits]
      simp [ofTag, hKind]
  | cancelled kind =>
      rw [toDatum, decoder_fields d (by simp) (by simp) hFits]
      simp [ofTag, hKind]
  | internal kind reason =>
      rw [toDatum, decoder_fields d (by simp) (by simp) hFits]
      simp [ofTag, hKind]

end RunError

/-! ## Verdicts -/

namespace Status

theorem fits_toFields (s : Status) : ∀ kv ∈ s.toFields, kv.2.Fits n := by
  cases s <;> simp [toFields, (ErrorCategory.recovers _).fits]

theorem nodup_toFields (s : Status) : (s.toFields.map Prod.fst).Nodup := by
  cases s <;> simp [toFields]

/-- No field of a status has the name of another field of its verdict. -/
theorem not_mem_fieldNames (s : Status) : ∀ kv ∈ s.toFields, kv.1 ∉ Verdict.fieldNames := by
  cases s <;> simp [toFields, Verdict.fieldNames]

theorem exists_lookup (s : Status) :
    ∃ tag, s.toFields.lookup "status" = some tag ∧ ofTag tag s.toFields = some s := by
  cases s with
  | pass => exact ⟨_, rfl, rfl⟩
  | fail => exact ⟨_, rfl, rfl⟩
  | error category message =>
      have hCategory := ErrorCategory.recovers (n := 0) category
      exact ⟨_, rfl, by simp [toFields, ofTag, hCategory.reads]⟩

end Status

namespace Verdict

structure Writable (v : Verdict) : Prop where
  exitCode : ∀ k ∈ v.exitCode, IsInt32 k
  durationMs : ∀ k ∈ v.durationMs, IsNat64 k

theorem recovers {v : Verdict} (h : v.Writable) : Recovers decoder (n + 1) v.toDatum v := by
  have hKind := KindId.recovers (n := n) v.kind
  have hClass := FaultClass.recovers (n := n) v.faultClass
  have hMode := MatchMode.recovers (n := n) v.matchMode
  have hObserved := Recovers.ofOption (n := n) (o := v.observed) (fun s _ => .text s) nofun
  have hExit := Recovers.ofOption (n := n) (fun k hk => .int32 (h.exitCode k hk)) nofun
  have hDuration := Recovers.ofOption (n := n) (fun k hk => .nat64 (h.durationMs k hk)) nofun
  have hDigest := Recovers.ofOption (n := n) (o := v.programDigest) (fun s _ => .text s) nofun
  have hStatus := v.status.fits_toFields (n := n)
  refine ⟨fun d => ?_, .fields ?_⟩
  · obtain ⟨tag, hTag, hOfTag⟩ := v.status.exists_lookup
    have hForeign := v.status.not_mem_fieldNames
    have hNodup := v.status.nodup_toFields
    have hWhole := (Datum.Fits.fields hStatus).isWhole
    have hNames : fieldNames.Nodup := by simp [fieldNames]
    simp only [toDatum, decoder]
    rw [Slots.ofFields_flattened hNames hNodup hForeign rfl,
      Slots.filter_flattened hForeign rfl, Slots.atMostOnce_eq_lookup hNodup, hTag]
    simp [hWhole, hOfTag, fieldNames, hKind.reads, hClass.reads, hMode.reads,
      hObserved.reads, hExit.reads, hDuration.reads, hDigest.reads]
  · simp only [List.forall_mem_append]
    refine ⟨⟨?_, hStatus⟩, ?_⟩
    · simp [hKind.fits, hClass.fits]
    · simp [hMode.fits, hObserved.fits, hExit.fits, hDuration.fits, hDigest.fits]

end Verdict

/-! ## Reports -/

theorem Uuid.recovers (u : Uuid) : Recovers decoder n (.text u.text) u := by
  refine ⟨fun d => ?_, .text _⟩
  rw [decoder, Decoder.bind, Decoder.text, Option.bind_some, ofString?_text]

theorem Time.recovers {t : Time} (h : t.Writable) : Recovers decoder n (.text (t.text "Z")) t := by
  refine ⟨fun d => ?_, .text _⟩
  rw [decoder, Decoder.bind, Decoder.text, Option.bind_some, ofString?_text h]

namespace Summary

structure Writable (s : Summary) : Prop where
  total : IsNat64 s.total
  passed : IsNat64 s.passed
  failed : IsNat64 s.failed
  errored : IsNat64 s.errored

theorem recovers {s : Summary} (h : s.Writable) : Recovers decoder (n + 1) s.toDatum s := by
  have hTotal := Recovers.nat64 (n := n) h.total
  have hPassed := Recovers.nat64 (n := n) h.passed
  have hFailed := Recovers.nat64 (n := n) h.failed
  have hErrored := Recovers.nat64 (n := n) h.errored
  refine ⟨fun d => ?_, .fields ?_⟩
  · simp [decoder, toDatum, hTotal.reads, hPassed.reads, hFailed.reads, hErrored.reads]
  · simp [hTotal.fits, hPassed.fits, hFailed.fits, hErrored.fits]

end Summary

namespace Report

structure Writable (r : Report) : Prop where
  generatedAt : r.head.generatedAt.Writable
  verdicts : ∀ v ∈ r.verdicts, v.Writable
  summary : r.summary.Writable

theorem recovers {r : Report} (h : r.Writable) : Recovers decoder (n + 3) r.toDatum r := by
  have hId := Uuid.recovers (n := n + 2) r.head.runId
  have hTime := Time.recovers (n := n + 2) h.generatedAt
  have hVerdicts := Recovers.list (n := n + 1) (l := r.verdicts) fun v hv =>
    Verdict.recovers (h.verdicts v hv)
  have hSummary := Summary.recovers (n := n + 1) h.summary
  have hAborted := Recovers.ofOption (n := n + 2) (o := r.aborted) (fun s _ => .text s) nofun
  refine ⟨fun d => ?_, .fields ?_⟩
  · simp [decoder, toDatum, hId.reads, hTime.reads, hVerdicts.reads, hSummary.reads, hAborted.reads]
  · simp [hVerdicts.fits, hSummary.fits, hAborted.fits]

/-- **A report survives its JSON**, as it is rendered and on one line. -/
theorem read_json {r : Report} (h : r.Writable) :
    (Json.read? r.json).bind (decoder .json) = some r ∧
      (Json.read? (Json.write .compact r.toDatum)).bind (decoder .json) = some r := by
  have hSurvives := (recovers (n := 0) h).survives (by decide)
  exact ⟨hSurvives .indented, hSurvives .compact⟩

/-- A report with escapes, the bounds of numbers, and a leap second. -/
def awkward : Report where
  head := ⟨.zero, ⟨⟨2016, 12, 31⟩, 86399, 1999999999⟩⟩
  verdicts := [
    { kind := FaultClass.leak.canonicalId, faultClass := .leak
      status := .error .toolUnavailable "no \"clang\"\x00 in C:\\é𝄞"
      expected := "", matchMode := .regex
      observed := some "\x1f\t\x7f\r\n", exitCode := some (-0x80000000)
      durationMs := some 0xffffffffffffffff },
    { kind := FaultClass.doubleFree.canonicalId, faultClass := .doubleFree, status := .pass
      expected := "\x08", matchMode := .substring }]
  summary := ⟨0, 0xffffffffffffffff, 1, 2⟩
  aborted := some "\x0c"

theorem read_json_awkward : awkward.Writable ∧
    (Json.read? awkward.json).bind (decoder .json) = some awkward ∧
      (Json.read? (Json.write .compact awkward.toDatum)).bind (decoder .json) = some awkward := by
  have hWritable : awkward.Writable := by
    refine ⟨⟨by decide, by decide, by decide, by decide⟩, fun v hv => ?_,
      ⟨by decide, by decide, by decide, by decide⟩⟩
    rcases List.mem_pair.mp hv with rfl | rfl
    · exact ⟨by decide, by decide⟩
    · exact ⟨nofun, nofun⟩
  exact ⟨hWritable, read_json hWritable⟩

end Report

end FaultBench

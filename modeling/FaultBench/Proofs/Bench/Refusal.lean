import FaultBench.Proofs.Bench.Deeds
import FaultBench.Proofs.Bench.Independence

/-!
# Requests that are refused

A session is refused only for what is wrong with its request: an id that the catalog does not have,
or a selected kind that no program can be written for (`Catalog.Refuses`). Nothing is done before it
is refused, and nothing that happens later has it refused: `run_refused` puts this together.
-/

namespace FaultBench

namespace Catalog

/-- Why a catalog refuses the requested ids: the first one that it does not have, or else the first
of the wanted kinds with a parameter that is out of its range. -/
inductive Refuses (c : Catalog) (requested : List KindId) : SetupError → Prop
  | unknown {before after : List KindId} {id : KindId} (hr : requested = before ++ id :: after)
      (hBefore : ∀ i ∈ before, i ∈ c.ids) (hid : id ∉ c.ids) : Refuses c requested (.unknownKind id)
  | unsupported {before after : List Kind} {k : Kind} {flaw : VariantFlaw}
      (hKnown : ∀ id ∈ requested, id ∈ c.ids) (hs : c.wanted requested = before ++ k :: after)
      (hBefore : ∀ j ∈ before, j.variant.InRange j.faultClass)
      (hFlaw : k.variant.flaw? k.faultClass = some flaw) :
      Refuses c requested (.unsupportedVariant k.id flaw)

end Catalog

/-- Writing programs fails for the first kind with a parameter that is out of its range. -/
theorem mapM_synthesizeDefault_eq_error_iff {ks : List Kind} {e : SetupError} :
    ks.mapM Kind.synthesizeDefault = .error e ↔
      ∃ before k after, ks = before ++ k :: after ∧
        (∀ j ∈ before, j.variant.InRange j.faultClass) ∧
        ∃ flaw, k.variant.flaw? k.faultClass = some flaw ∧ e = .unsupportedVariant k.id flaw := by
  rw [mapM_eq_error_iff]
  simp only [FirstFails, Kind.exists_synthesizeDefault_iff, Kind.synthesizeDefault_eq_error_iff]

theorem exists_mapM_error_iff {ks : List Kind} :
    (∃ e, ks.mapM Kind.synthesizeDefault = .error e) ↔
      ∃ k ∈ ks, ¬ k.variant.InRange k.faultClass := by
  simp only [mapM_eq_error_iff, exists_firstFails_iff, ← Kind.exists_synthesizeDefault_iff]
  refine exists_congr fun k => and_congr_right fun _ => ?_
  cases k.synthesizeDefault <;> simp

namespace Bench

variable {oracle : Oracle} {q : Request} {e : SetupError}

/-- A session is refused exactly where the catalog refuses what is requested. -/
theorem run_eq_refused_iff_refuses :
    run oracle q = .error (.refused e) ↔ q.catalog.Refuses q.requested e := by
  rw [run_eq_refused_iff]
  constructor
  · rintro (hSelect | ⟨selection, hSelect, hPrograms⟩)
    · obtain ⟨before, id, after, hr, hBefore, hid, rfl⟩ := Catalog.select_eq_error_iff.mp hSelect
      exact .unknown hr hBefore hid
    · obtain ⟨hKnown, rfl⟩ := Catalog.select_eq_ok_iff.mp hSelect
      obtain ⟨before, k, after, hs, hBefore, flaw, hFlaw, rfl⟩ :=
        mapM_synthesizeDefault_eq_error_iff.mp hPrograms
      exact .unsupported hKnown hs hBefore hFlaw
  · rintro (⟨hr, hBefore, hid⟩ | ⟨hKnown, hs, hBefore, hFlaw⟩)
    · exact .inl (Catalog.select_eq_error_iff.mpr ⟨_, _, _, hr, hBefore, hid, rfl⟩)
    · refine .inr ⟨_, Catalog.select_eq_ok_iff.mpr ⟨hKnown, rfl⟩, ?_⟩
      exact mapM_synthesizeDefault_eq_error_iff.mpr ⟨_, _, _, hs, hBefore, _, hFlaw, rfl⟩

/-- So it is refused if an id is requested that the catalog does not have, or a kind is selected with
a parameter that is out of its range. -/
theorem exists_run_refused_iff : (∃ e, run oracle q = .error (.refused e)) ↔
    (∃ id ∈ q.requested, id ∉ q.catalog.ids) ∨
      ∃ k ∈ q.catalog.wanted q.requested, ¬ k.variant.InRange k.faultClass := by
  simp only [run_eq_refused_iff, exists_or, Catalog.exists_select_error_iff]
  constructor
  · rintro (hUnknown | ⟨e, selection, hSelect, hPrograms⟩)
    · exact .inl hUnknown
    · obtain ⟨-, rfl⟩ := Catalog.select_eq_ok_iff.mp hSelect
      exact .inr (exists_mapM_error_iff.mp ⟨e, hPrograms⟩)
  · rintro (hUnknown | hRange)
    · exact .inl hUnknown
    · by_cases hUnknown : ∃ id ∈ q.requested, id ∉ q.catalog.ids
      · exact .inl hUnknown
      · have hKnown : ∀ id ∈ q.requested, id ∈ q.catalog.ids := by simpa using hUnknown
        obtain ⟨e, he⟩ := exists_mapM_error_iff.mpr hRange
        exact .inr ⟨e, _, Catalog.select_eq_ok_iff.mpr ⟨hKnown, rfl⟩, he⟩

/-- Where selection and synthesis succeed, nothing is refused. -/
theorem not_refuses {selection : List Kind} {ps : List Program}
    (hs : q.catalog.select q.requested = .ok selection)
    (hp : selection.mapM Kind.synthesizeDefault = .ok ps) : ¬ q.catalog.Refuses q.requested e := by
  intro hRefuses
  have hRun : run .mixed q = .error (.refused e) := run_eq_refused_iff_refuses.mpr hRefuses
  rcases run_eq_refused_iff.mp hRun with hSelect | ⟨selection', hSelect, hPrograms⟩
  · cases hs.symm.trans hSelect
  · obtain rfl := Except.ok.inj (hs.symm.trans hSelect)
    cases hp.symm.trans hPrograms

theorem exists_of_not_refuses (h : ∀ e, ¬ q.catalog.Refuses q.requested e) :
    ∃ selection ps, q.catalog.select q.requested = .ok selection ∧
      selection.mapM Kind.synthesizeDefault = .ok ps := by
  have hNot : ∀ e, ¬ run .mixed q = .error (.refused e) := fun e =>
    fun hRun => h e (run_eq_refused_iff_refuses.mp hRun)
  simp only [run_eq_refused_iff] at hNot
  cases hs : q.catalog.select q.requested with
  | error e => exact absurd (.inl hs) (hNot e)
  | ok selection =>
      cases hp : selection.mapM Kind.synthesizeDefault with
      | error e => exact absurd (.inr ⟨selection, hs, hp⟩) (hNot e)
      | ok ps => exact ⟨selection, ps, rfl, hp⟩

/-- **Requests that are refused.** A session is refused exactly where the catalog refuses what is
requested, with the error for which it does, and then nothing has been done. Whether it is refused
depends on the catalog and the requested ids alone, and not on what the oracle says or on when the
session is cancelled. All other sessions come to a report, or break down when they have begun and
their oracle was asked. -/
theorem run_refused (q : Request) :
    ((∃ e, q.catalog.Refuses q.requested e) ↔
      (∃ id ∈ q.requested, id ∉ q.catalog.ids) ∨
        ∃ k ∈ q.catalog.wanted q.requested, ¬ k.variant.InRange k.faultClass) ∧
    ∀ oracle,
      (∀ e, run oracle q = .error (.refused e) ↔ q.catalog.Refuses q.requested e) ∧
      (∀ e, q.catalog.Refuses q.requested e →
        (perform oracle q).run = ⟨.error (.refused e), []⟩) ∧
      (∀ session, run oracle q = .ok session →
        (perform oracle q).run = ⟨.ok session, session.deeds⟩) ∧
      ((∀ e, ¬ q.catalog.Refuses q.requested e) →
        (¬ BreaksDown oracle q → ∃ session, run oracle q = .ok session) ∧
        (BreaksDown oracle q → run oracle q = .error (.panic tooManyPermits) ∧
          ∃ kinds, (perform oracle q).run =
            ⟨.error (.panic tooManyPermits), [.emit (.started kinds q.permits), .probe]⟩)) ∧
      ∀ rule selection turns session, Held rule oracle q selection turns session →
        ∀ e, ¬ q.catalog.Refuses q.requested e := by
  constructor
  · have hRun : (∃ e, run .mixed q = .error (.refused e)) ↔ _ := exists_run_refused_iff
    simpa only [run_eq_refused_iff_refuses] using hRun
  · intro oracle
    refine ⟨fun e => run_eq_refused_iff_refuses, ?_, fun session => run_perform_ok, ?_, ?_⟩
    · intro e h
      exact run_perform_refused (run_eq_refused_iff_refuses.mpr h)
    · intro h
      obtain ⟨selection, ps, hs, hp⟩ := exists_of_not_refuses h
      refine ⟨exists_run hs hp, fun hb => ⟨run_of_breaksDown hs hp hb, ps.length, ?_⟩⟩
      exact run_perform_breaksDown hs hp hb
    · intro rule selection turns session h e
      exact not_refuses h.select_eq h.mapM_eq

/-- A kind whose programs would leak no block. -/
def leakless : Kind := { Kind.builtin .leak with variant := { leakCount := 0 } }

/-- A request of kinds from a catalog that holds no other kind. -/
def Request.leakless (requested : List KindId) : Request where
  catalog := ⟨[Bench.leakless], by decide, by decide⟩
  requested := requested
  parallelism := 1
  head := ⟨.zero, ⟨⟨2026, 1, 1⟩, 0, 0⟩⟩

theorem run_refused_leakless :
    (perform .mixed (.leakless [])).run =
        ⟨.error (.refused (.unsupportedVariant leakless.id (.outOfRange "leak_count" 64 0))), []⟩ ∧
      (perform .mixed (.leakless [leakless.id, FaultClass.nullDeref.canonicalId,
          FaultClass.doubleFree.canonicalId])).run =
        ⟨.error (.refused (.unknownKind FaultClass.nullDeref.canonicalId)), []⟩ := by
  constructor
  · have hWanted : (Request.leakless []).catalog.wanted [] = [] ++ leakless :: [] := rfl
    obtain ⟨-, hDeeds, -⟩ := (run_refused (.leakless [])).2 .mixed
    exact hDeeds _ (.unsupported (by simp [Request.leakless]) hWanted (by simp) (by decide))
  · have hSplit : [leakless.id, FaultClass.nullDeref.canonicalId, FaultClass.doubleFree.canonicalId] =
        [leakless.id] ++ FaultClass.nullDeref.canonicalId :: [_] := rfl
    obtain ⟨-, hDeeds, -⟩ := (run_refused (.leakless _)).2 .mixed
    exact hDeeds _ (.unknown hSplit (by decide) (by decide))

end Bench

end FaultBench

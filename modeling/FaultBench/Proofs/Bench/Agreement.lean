import FaultBench.Proofs.Bench.Reasons

/-!
# Reports agree with themselves

The reason for which a report is aborted, its counts and its exit code are found in three different
ways. In the report of a session that runs any kind at all, they say the same as the verdicts
(`report_agrees`), whatever turns the tasks take and whatever way the session ends.
-/

namespace FaultBench

/-! ## Counts and exit codes -/

/-- Each verdict is counted once. -/
theorem Summary.total_eq (vs : List Verdict) :
    (ofVerdicts vs).total =
      (ofVerdicts vs).passed + (ofVerdicts vs).failed + (ofVerdicts vs).errored := by
  simp only [ofVerdicts]
  induction vs with
  | nil => rfl
  | cons v vs ih =>
      rw [List.length_cons, List.countP_cons, List.countP_cons, List.countP_cons, ih]
      cases hStatus : v.status <;>
        simp [Verdict.passed, hStatus, Status.isPass, Status.isFail, Status.isError] <;> omega

theorem Verdict.passed_iff {v : Verdict} : v.passed = true ↔ v.status = .pass := by
  unfold Verdict.passed
  cases v.status <;> simp [Status.isPass]

theorem Verdict.category?_of_pass {v : Verdict} (h : v.status = .pass) : v.category? = none := by
  rw [Verdict.category?, h]

namespace Report

/-- Some kind was not run because no program can be, or its run was cancelled. -/
def IsCutShort (r : Report) : Prop :=
  ∃ v ∈ r.verdicts, v.category? = some .toolUnavailable ∨ v.category? = some .cancelled

theorem exitCode_eq_two {r : Report} : r.exitCode = 2 ↔ r.aborted.isSome = true := by
  unfold exitCode
  split
  next h => simp [h]
  next h => split <;> simp [h]

theorem exitCode_eq_zero {r : Report} : r.exitCode = 0 ↔ r.allPassed = true := by
  unfold exitCode
  split
  next h =>
    have hNot : r.allPassed = false := by simp [allPassed, Option.isSome_iff_ne_none.mp h]
    simp [hNot]
  next h => split <;> simp [*]

theorem exitCode_eq_one {r : Report} : r.exitCode = 1 ↔ r.exitCode ≠ 2 ∧ r.exitCode ≠ 0 := by
  unfold exitCode
  split
  · simp
  · split <;> simp

theorem allPassed_ofVerdicts {head : Head} {vs : List Verdict} {aborted : Option String} :
    (ofVerdicts head vs aborted).allPassed = true ↔
      aborted = none ∧ ∀ v ∈ vs, v.status = .pass := by
  simp [allPassed, ofVerdicts, Summary.ofVerdicts, List.countP_eq_length, Verdict.passed_iff]

end Report

/-- Whatever the outcome, the verdict is on the kind itself. -/
theorem Verifier.judge_kind (v : Verifier) (k : Kind) (o : Option Outcome) :
    (v.judge k o).kind = k.id := by
  cases o with
  | none => rfl
  | some o => cases o with
    | error e => rfl
    | ok r =>
        simp only [judge, judgeRun]
        split <;> rfl

namespace Bench

variable {rule : Rule} {oracle : Oracle} {q : Request} {selection : List Kind}
  {turns : List Turn} {session : Session}

/-! ## The report of a session -/

/-- There is a verdict on each selected kind, in their order. -/
theorem Held.verdicts_kind (h : Held rule oracle q selection turns session) :
    session.report.verdicts.map Verdict.kind = selection.map Kind.id := by
  have hLength : session.record.outcomes.length = selection.length := by
    simpa using congrArg List.length h.outcomes_fst
  refine List.ext_getElem? fun i => ?_
  rw [h.verdicts_eq, List.getElem?_map, List.getElem?_map, List.getElem?_zipWith]
  cases hk : selection[i]? with
  | none => rfl
  | some k =>
      have hlt : i < session.record.outcomes.length :=
        hLength ▸ (List.getElem?_eq_some_iff.mp hk).1
      rw [List.getElem?_eq_getElem hlt]
      simp [Verifier.judge_kind]

theorem Held.isCutShort_iff (h : Held rule oracle q selection turns session) (hs : selection ≠ [])
    (ha : ∀ e, oracle.unavailable = some e → e.isFatal = true) :
    session.report.aborted.isSome = true ↔ session.report.IsCutShort := by
  have hAborted : session.report.aborted = abortReason? session.record.outcomes :=
    h.report_aborted.trans (h.aborted_eq hs ha)
  have hUnavailable := h.exists_category_iff (c := .toolUnavailable) (by simp)
  have hCancelled := h.exists_category_iff (c := .cancelled) (by simp)
  rw [hAborted, isSome_abortReason?]
  simp only [Report.IsCutShort, RunError.isFatal_iff, RunError.isCancelled_iff, and_or_left,
    exists_or, hUnavailable, hCancelled]

/-- If a verdict says that no program can be run, the report is aborted for the error of the first
such kind. -/
theorem Held.aborted_of_unavailable (h : Held rule oracle q selection turns session)
    (hs : selection ≠ []) (ha : ∀ e, oracle.unavailable = some e → e.isFatal = true)
    {i : Nat} {v : Verdict} (hv : session.report.verdicts[i]? = some v)
    (hCategory : v.category? = some .toolUnavailable)
    (hFirst : ∀ (j : Nat) (w : Verdict), j < i → session.report.verdicts[j]? = some w →
      w.category? ≠ some .toolUnavailable) :
    ∃ e, session.record.outcomes[i]? = some (v.kind, .error e) ∧ e.isFatal = true ∧
      session.report.aborted = some e.message := by
  obtain ⟨k, o, hk, ho, rfl⟩ := h.exists_outcome hv
  obtain ⟨e, rfl, he⟩ := (Verifier.category?_judge (by simp)).mp hCategory
  have hFatal := RunError.isFatal_iff.mpr he
  refine ⟨e, by rw [Verifier.judge_kind, ho], hFatal, ?_⟩
  rw [h.report_aborted, h.aborted_eq hs ha]
  refine abortReason?_of_fatal ho hFatal fun j id e' hj hError => ?_
  obtain ⟨k', hk', rfl⟩ := h.exists_kind hError
  by_contra hFatal'
  have hCategory' := RunError.isFatal_iff.mp (by simpa using hFatal')
  exact hFirst j _ hj (h.verdict hk' hError)
    ((Verifier.category?_judge (by simp)).mpr ⟨e', rfl, hCategory'⟩)

/-- If no verdict says that no program can be run, a report is aborted for a cancelled kind only. -/
theorem Held.aborted_of_not_unavailable (h : Held rule oracle q selection turns session)
    (hs : selection ≠ []) (ha : ∀ e, oracle.unavailable = some e → e.isFatal = true)
    (hNot : ∀ v ∈ session.report.verdicts, v.category? ≠ some .toolUnavailable)
    (hAborted : session.report.aborted.isSome = true) :
    session.report.aborted = some cancelledReason := by
  have hErrors : ∀ e ∈ errors session.record.outcomes, e.isFatal = false := by
    intro e he
    by_contra hFatal
    obtain ⟨v, hv, hCategory⟩ := (h.exists_category_iff (c := .toolUnavailable) (by simp)).mpr
      ⟨e, he, RunError.isFatal_iff.mp (by simpa using hFatal)⟩
    exact hNot v hv hCategory
  have hReason : session.report.aborted = abortReason? session.record.outcomes :=
    h.report_aborted.trans (h.aborted_eq hs ha)
  rw [abortReason?_of_not_fatal hErrors] at hReason
  rw [hReason] at hAborted ⊢
  split at hAborted
  next hAny => rw [if_pos hAny]
  next => cases hAborted

/-- **Reports agree with themselves.** In a session that runs any kind at all, and whose oracle is
unavailable for a fatal error only, the reason, the counts and the exit code of the report say the
same as its verdicts, which are in the order of the catalog. -/
theorem report_agrees (h : Held .free oracle q selection turns session) (hs : selection ≠ [])
    (ha : ∀ e, oracle.unavailable = some e → e.isFatal = true) :
    (session.report.verdicts.map Verdict.kind).Sublist q.catalog.ids ∧
    (session.report.aborted.isSome = true ↔ session.report.IsCutShort) ∧
    (∀ (i : Nat) (v : Verdict), session.report.verdicts[i]? = some v →
      v.category? = some .toolUnavailable →
      (∀ (j : Nat) (w : Verdict), j < i → session.report.verdicts[j]? = some w →
        w.category? ≠ some .toolUnavailable) →
      ∃ e, session.record.outcomes[i]? = some (v.kind, .error e) ∧ e.isFatal = true ∧
        session.report.aborted = some e.message) ∧
    ((∀ v ∈ session.report.verdicts, v.category? ≠ some .toolUnavailable) →
      session.report.aborted.isSome = true → session.report.aborted = some "cancelled") ∧
    session.report.summary.total = session.report.verdicts.length ∧
    session.report.summary.total = session.report.summary.passed + session.report.summary.failed +
      session.report.summary.errored ∧
    (session.report.exitCode = 2 ↔ session.report.IsCutShort) ∧
    (session.report.exitCode = 0 ↔ ∀ v ∈ session.report.verdicts, v.status = .pass) ∧
    (session.report.exitCode = 1 ↔
      ¬ session.report.IsCutShort ∧ ¬ ∀ v ∈ session.report.verdicts, v.status = .pass) := by
  have hSummary : session.report.summary = .ofVerdicts session.report.verdicts := by
    rw [h.report_eq]
    rfl
  have hCutShort : session.report.exitCode = 2 ↔ session.report.IsCutShort := by
    rw [Report.exitCode_eq_two]
    exact h.isCutShort_iff hs ha
  have hPass : session.report.exitCode = 0 ↔ ∀ v ∈ session.report.verdicts, v.status = .pass := by
    rw [Report.exitCode_eq_zero, h.report_eq, Report.allPassed_ofVerdicts]
    refine and_iff_right_of_imp fun hAll => ?_
    rw [← h.report_aborted, ← Option.not_isSome_iff_eq_none, h.isCutShort_iff hs ha]
    rintro ⟨v, hv, hCategory⟩
    simp [Verdict.category?_of_pass (hAll v hv)] at hCategory
  refine ⟨?_, h.isCutShort_iff hs ha, ?_, h.aborted_of_not_unavailable hs ha, ?_, ?_, hCutShort,
    hPass, ?_⟩
  · rw [h.verdicts_kind]
    exact (Catalog.select_sublist h.select_eq).map Kind.id
  · intro i v hv hCategory hFirst
    exact h.aborted_of_unavailable hs ha hv hCategory hFirst
  · rw [hSummary]
    rfl
  · rw [hSummary]
    exact Summary.total_eq _
  · rw [Report.exitCode_eq_one, Ne, hCutShort, Ne, hPass]

/-- What cannot compile anything. -/
def Oracle.missing : Oracle where
  unavailable := some (.toolUnavailable "clang" "not found")
  behaviour := fun _ => ⟨0, .panic "never asked"⟩

theorem report_agrees_missing :
    ∃ session, run .missing (.builtins 2 none) = .ok session ∧
      (∀ e, Oracle.missing.unavailable = some e → e.isFatal = true) ∧ Kind.builtins ≠ [] ∧
      session.report.IsCutShort ∧ session.report.exitCode = 2 := by
  obtain ⟨session, turns, hRun, h⟩ := exists_held (q := .builtins 2 none) rfl mapM_builtins
    (not_breaksDown .missing (by decide))
  have hContract : ∀ e, Oracle.missing.unavailable = some e → e.isFatal = true := by
    rintro e ⟨⟩
    rfl
  have hNonempty : Kind.builtins ≠ [] := by decide
  have hOutcome := h.outcome_of_unavailable (i := 0) (by simp [Request.builtins]) rfl rfl
  have hCutShort : session.report.IsCutShort :=
    ⟨_, List.mem_of_getElem? (h.verdict rfl hOutcome), .inl rfl⟩
  obtain ⟨-, -, -, -, -, -, hTwo, -⟩ := report_agrees h.free_of_prompt hNonempty hContract
  exact ⟨session, hRun, hContract, hNonempty, hCutShort, hTwo.mpr hCutShort⟩

end Bench

end FaultBench

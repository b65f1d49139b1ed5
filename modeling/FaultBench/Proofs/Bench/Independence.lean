import FaultBench.Proofs.Bench.Reasons

/-!
# Independence of the schedule

Where no reply is fatal and none says that its run was cancelled, a session that is not cancelled
reports what one gets by running one kind after the other (`report_eq_sequential`). The delays of
the jobs, the number of permits and the order of the polls do not show in the report, up to the
number of permits for which there is none.
-/

namespace FaultBench.Bench

/-- The verdicts if the selected kinds are run one after the other, each on its own. -/
def sequential (c : Catalog) (requested : List KindId) (v : Verifier) (reply : Program → Reply) :
    Except SetupError (List Verdict) := do
  let selection ← c.select requested
  selection.mapM fun k => do
    let p ← k.synthesizeDefault
    return v.judge k (some ((reply p).toOutcome k.id))

variable {rule : Rule} {oracle : Oracle} {q : Request} {selection : List Kind} {ps : List Program}
  {turns : List Turn} {session : Session}

/-- Every job was run to its end, and its reply is recorded for its kind. -/
def Complete (oracle : Oracle) (selection : List Kind) (session : Session) : Prop :=
  ∀ (i : Nat) (k : Kind), selection[i]? = some k → ∃ p, session.programs[i]? = some p ∧
    session.record.outcomes[i]? = some (k.id, (oracle.behaviour p).reply.toOutcome k.id)

namespace Held

/-- A session is complete if its tasks had ended before anything stopped its bench. -/
theorem complete {before after : List Turn}
    (h : Held rule oracle q selection (before ++ after) session) (hc : q.cancelAt ≠ some 0)
    (ha : oracle.unavailable = none)
    (hStopping : (q.bench oracle session.programs before).stopping = false)
    (hDone : (q.bench oracle session.programs before).isDone = true) :
    Complete oracle selection session := by
  intro i k hk
  obtain ⟨p, hp, -⟩ := h.program hk
  exact ⟨p, hp, h.outcome_of_hasEnded hc ha hStopping
    (State.hasEnded_iff.mpr (exists_ending hDone hp)) hk hp⟩

/-- Without a fatal reply and without a stop from outside, a session is complete. -/
theorem complete_of_not_cancelled (h : Held .free oracle q selection turns session)
    (hc : q.cancelAt = none) (ha : oracle.unavailable = none)
    (hr : ∀ p ∈ session.programs, (oracle.behaviour p).reply.isFatal = false) :
    Complete oracle selection session := by
  have hNot : q.cancelAt ≠ some 0 := by simp [hc]
  obtain ⟨hFollows, hDone, -⟩ := h.record_eq hNot ha
  have hCancelled : (q.bench oracle session.programs turns).cancelled = false :=
    Follows.cancelled_eq_false (hc ▸ hFollows) rfl
  have hAborted := bench_aborted_eq_false q turns hr
  rw [← List.append_nil turns] at h
  refine h.complete hNot ha ?_ hDone
  simp [State.stopping, hCancelled, hAborted]

/-- The verdicts of a complete session are those of running one kind after the other. -/
theorem sequential_eq (h : Held rule oracle q selection turns session)
    (hComplete : Complete oracle selection session) :
    sequential q.catalog q.requested q.verifier (fun p => (oracle.behaviour p).reply) =
      .ok session.report.verdicts := by
  refine bind_eq_ok_iff.mpr ⟨selection, h.select_eq, mapM_eq_ok_iff.mpr ?_⟩
  refine List.ext_getElem? fun i => ?_
  rw [List.getElem?_map, List.getElem?_map]
  cases hk : selection[i]? with
  | none => simp [h.verdicts_eq, List.getElem?_zipWith, hk]
  | some k =>
      obtain ⟨p, hp, hOutcome⟩ := hComplete i k hk
      obtain ⟨p', hp', hSynth, -⟩ := h.program hk
      obtain rfl : p' = p := Option.some.inj (hp'.symm.trans hp)
      simp [h.verdict hk hOutcome, hSynth, bind, Except.bind, pure, Except.pure]

/-- Nothing aborts a complete session if no reply is fatal or says that its run was cancelled. -/
theorem aborted_eq_none (h : Held rule oracle q selection turns session)
    (hComplete : Complete oracle selection session) (hc : q.cancelAt ≠ some 0)
    (ha : oracle.unavailable = none)
    (hr : ∀ p ∈ session.programs, (oracle.behaviour p).reply.isFatal = false ∧
      (oracle.behaviour p).reply.isCancelled = false) :
    session.record.aborted = none := by
  have hErrors : ∀ e ∈ errors session.record.outcomes,
      e.isFatal = false ∧ e.isCancelled = false := by
    intro e he
    obtain ⟨i, k, hk, hError⟩ := h.exists_of_mem_errors he
    obtain ⟨p, hp, hOutcome⟩ := hComplete i k hk
    have hEq : (oracle.behaviour p).reply.toOutcome k.id = .error e :=
      congrArg Prod.snd (Option.some.inj (hOutcome.symm.trans hError))
    obtain ⟨hFatal, hCancelled⟩ := Reply.of_toOutcome_eq_error hEq
    obtain ⟨hNotFatal, hNotCancelled⟩ := hr p (List.mem_of_getElem? hp)
    exact ⟨hFatal.trans hNotFatal, hCancelled.trans hNotCancelled⟩
  rw [h.aborted_eq_abortReason? hc ha, abortReason?_of_not_fatal fun e he => (hErrors e he).1,
    if_neg]
  simp only [List.any_eq_true, not_exists, not_and, Bool.not_eq_true]
  exact fun e he => (hErrors e he).2

/-- Such a session reports on the verdicts of running one kind after the other, and is not
aborted. -/
theorem exists_sequential (h : Held rule oracle q selection turns session)
    (hComplete : Complete oracle selection session) (hc : q.cancelAt ≠ some 0)
    (ha : oracle.unavailable = none)
    (hr : ∀ p ∈ session.programs, (oracle.behaviour p).reply.isFatal = false ∧
      (oracle.behaviour p).reply.isCancelled = false) :
    ∃ vs, sequential q.catalog q.requested q.verifier (fun p => (oracle.behaviour p).reply) =
        .ok vs ∧
      session.report = .ofVerdicts q.head vs none := by
  refine ⟨session.report.verdicts, h.sequential_eq hComplete, ?_⟩
  rw [← h.aborted_eq_none hComplete hc ha hr]
  exact h.report_eq

end Held

/-- **Independence of the schedule.** Whatever turns the tasks take, and also in the order in which
`run` polls them, the report is the one on the verdicts of running one kind after the other, and it
is not aborted. `run` comes to that report for every number of permits that a bench can have, and
breaks down for every greater one. -/
theorem report_eq_sequential (oracle : Oracle) (hs : q.catalog.select q.requested = .ok selection)
    (hp : selection.mapM Kind.synthesizeDefault = .ok ps) (hc : q.cancelAt = none)
    (ha : oracle.unavailable = none)
    (hr : ∀ p ∈ ps, (oracle.behaviour p).reply.isFatal = false ∧
      (oracle.behaviour p).reply.isCancelled = false) :
    ∃ vs, sequential q.catalog q.requested q.verifier (fun p => (oracle.behaviour p).reply) =
        .ok vs ∧
      (q.parallelism ≤ maxPermits →
        ∃ session, run oracle q = .ok session ∧ session.report = .ofVerdicts q.head vs none) ∧
      (∀ turns session, Held .free oracle q selection turns session →
        session.report = .ofVerdicts q.head vs none) ∧
      (maxPermits < q.parallelism → run oracle q = .error (.panic tooManyPermits)) := by
  have hNot : q.cancelAt ≠ some 0 := by simp [hc]
  have hHeld : ∀ turns session, Held .free oracle q selection turns session →
      ∃ vs, sequential q.catalog q.requested q.verifier (fun p => (oracle.behaviour p).reply) =
          .ok vs ∧ session.report = .ofVerdicts q.head vs none := by
    intro turns session h
    have hr' := (h.programs_eq hp).symm ▸ hr
    exact h.exists_sequential (h.complete_of_not_cancelled hc ha fun p hp => (hr' p hp).1) hNot ha
      hr'
  obtain ⟨turns, hEnded⟩ := exists_ended ps hNot ha
  obtain ⟨vs, hSequential, -⟩ := hHeld turns _
    ((Held.mk hs hp hEnded).mono fun _ _ _ _ => Rule.prompt_of_scheduled).free_of_prompt
  have hReport : ∀ turns session, Held .free oracle q selection turns session →
      session.report = .ofVerdicts q.head vs none := by
    intro turns' session' h'
    obtain ⟨vs', hSequential', hReport'⟩ := hHeld turns' session' h'
    rwa [← Except.ok.inj (hSequential.symm.trans hSequential')] at hReport'
  refine ⟨vs, hSequential, fun hFew => ?_, hReport, fun hMany => ?_⟩
  · obtain ⟨session, turns', hRun, h⟩ := exists_held hs hp (not_breaksDown oracle hFew)
    exact ⟨session, hRun, hReport turns' session h.free_of_prompt⟩
  · exact run_of_breaksDown hs hp ⟨hNot, ha, hMany⟩

/-- What runs a program that leaks at once, breaks down on one that frees twice, and fails on all
others, on each class after a time of its own. -/
def Oracle.mixed : Oracle where
  unavailable := none
  behaviour := fun p =>
    match p.faultClass with
    | .leak => ⟨0, .outcome (.ok ⟨p, some 23, none, "", "detected memory leaks", "", 1, false⟩)⟩
    | .doubleFree => ⟨30, .panic "lost"⟩
    | .nullDeref => ⟨20, .outcome (.error (.timeout p.kind 20 20))⟩
    | _ => ⟨10, .outcome (.error (.workspace p.kind "full"))⟩

theorem Oracle.mixed_reply (p : Program) :
    (mixed.behaviour p).reply.isFatal = false ∧ (mixed.behaviour p).reply.isCancelled = false := by
  cases hClass : p.faultClass <;>
    simp [mixed, hClass, Reply.isFatal, Reply.isCancelled, RunError.isFatal, RunError.isCancelled]

theorem report_eq_sequential_mixed :
    (∃ vs, sequential .builtin [] {} (fun p => (Oracle.mixed.behaviour p).reply) = .ok vs ∧
      (∃ session, run .mixed (.builtins 2 none) = .ok session ∧
        session.report = .ofVerdicts (Request.builtins 2 none).head vs none) ∧
      ∀ turns session, Held .free .mixed (.builtins 2 none) Kind.builtins turns session →
        session.report = .ofVerdicts (Request.builtins 2 none).head vs none) ∧
    run .mixed (.builtins (maxPermits + 1) none) = .error (.panic tooManyPermits) := by
  constructor
  · obtain ⟨vs, hSequential, hRun, hHeld, -⟩ := report_eq_sequential (q := .builtins 2 none)
      .mixed rfl mapM_builtins rfl rfl fun p _ => Oracle.mixed_reply p
    exact ⟨vs, hSequential, hRun (by decide), hHeld⟩
  · obtain ⟨-, -, -, -, hMany⟩ := report_eq_sequential (q := .builtins (maxPermits + 1) none)
      .mixed rfl mapM_builtins rfl rfl fun p _ => Oracle.mixed_reply p
    exact hMany (Nat.lt_succ_self maxPermits)

end FaultBench.Bench

import FaultBench.Proofs.Bench.Independence

/-!
# Sessions that are cancelled

`CancelledAt` says what comes of a session that is cancelled at a time after its start. What has
ended by then is kept, the rest is cancelled, and the report tells whether anything was lost. It
holds of every session on a virtual clock if no reply is fatal and none says that its run was
cancelled (`cancelled_at`), and there is one for every number of permits that a bench can have. A
session that is cancelled before it begins does not ask its oracle for anything, and needs no bench.
-/

namespace FaultBench.Bench

variable {rule : Rule} {oracle : Oracle} {q : Request} {selection : List Kind} {ps : List Program}
  {before after turns : List Turn} {session : Session} {j stopAt : Nat} {k : Kind} {p : Program}

/-- What comes of a session that is cancelled at the time `stopAt`. -/
structure CancelledAt (oracle : Oracle) (q : Request) (selection : List Kind) (turns : List Turn)
    (session : Session) (stopAt : Nat) : Prop where
  /-- A job that has replied before the stop is judged on its reply. -/
  kept : ∀ (before after : List Turn) (j : Nat) (k : Kind) (p : Program), turns = before ++ after →
    (q.bench oracle session.programs before).now < stopAt →
    (q.bench oracle session.programs before).hasEnded j = true →
    selection[j]? = some k → session.programs[j]? = some p →
    session.report.verdicts[j]? =
      some (q.verifier.judge k (some ((oracle.behaviour p).reply.toOutcome k.id)))
  /-- A job that is started is started by the time of the stop. It replies when its reply is due, or
  is dropped at the stop if its reply is not due before. -/
  ending : ∀ (j : Nat) (k : Kind) (p : Program), selection[j]? = some k →
    session.programs[j]? = some p → ∃ e,
    (q.bench oracle session.programs turns).tasks[j]? = some (.ended e) ∧
    session.report.verdicts[j]? = some (q.verifier.judge k (some (e.toOutcome k.id))) ∧
    (e = .skipped ∨ ∃ start, start ≤ stopAt ∧
      (start + (oracle.behaviour p).delayMs ≤ stopAt ∧
          e = .replied start (start + (oracle.behaviour p).delayMs) (oracle.behaviour p).reply ∨
        stopAt ≤ start + (oracle.behaviour p).delayMs ∧ e = .dropped start stopAt))
  /-- What has not ended at the stop is cancelled, and no job is started any more. -/
  stopped : ∀ (before after : List Turn), turns = before ++ .stop :: after →
    (q.bench oracle session.programs before).now = stopAt ∧
    (∀ (j : Nat) (k : Kind), (q.bench oracle session.programs before).hasEnded j = false →
      selection[j]? = some k → session.report.verdicts[j]? =
        some (q.verifier.judge k (some (.error (.cancelled k.id))))) ∧
    ∀ (mid rest : List Turn) (j : Nat), after = mid ++ rest →
      (q.bench oracle session.programs (before ++ .stop :: mid)).hasBegun j = true →
      (q.bench oracle session.programs before).hasBegun j = true
  took : session.record.tookMs ≤ stopAt
  /-- The report is aborted exactly if a kind is cancelled. -/
  aborted : session.report.aborted =
    if session.report.verdicts.any (·.category? == some .cancelled) then some cancelledReason
    else none
  /-- A stop that comes after all tasks have ended changes nothing. -/
  late : (∀ before after, turns = before ++ .stop :: after →
      (q.bench oracle session.programs before).isDone = true) →
    ∀ (turns' : List Turn) (session' : Session),
      Held .free oracle { q with cancelAt := none } selection turns' session' →
      session'.report = session.report

namespace Held

/-- On a virtual clock the bench of a session is on time after each turn. -/
theorem timely (h : Held .prompt oracle q selection (before ++ after) session)
    (hc : q.cancelAt ≠ some 0) (ha : oracle.unavailable = none) :
    Timely (oracle.jobs session.programs) q.cancelAt (q.bench oracle session.programs before) := by
  obtain ⟨hFollows, -, -⟩ := h.record_eq hc ha
  exact Timely.initial.course (opening_sound oracle q session.programs) q.permits_pos
    (Follows.append_iff.mp hFollows).1

/-- Time does not pass beyond the stop. -/
theorem now_le (h : Held .prompt oracle q selection (before ++ after) session)
    (hc : q.cancelAt = some stopAt) (hPos : 0 < stopAt) (ha : oracle.unavailable = none) :
    (q.bench oracle session.programs before).now ≤ stopAt := by
  have hTimely := h.timely (by simp [hc]; omega) ha
  cases hCancelled : (q.bench oracle session.programs before).cancelled with
  | false => exact hTimely.before_stop hCancelled stopAt hc
  | true =>
      have hAt := hTimely.at_stop hCancelled
      rw [hc, Option.some.injEq] at hAt
      omega

/-- The stop comes at its time. -/
theorem now_eq_of_stop (h : Held .prompt oracle q selection (before ++ .stop :: after) session)
    (hc : q.cancelAt = some stopAt) (hPos : 0 < stopAt) (ha : oracle.unavailable = none) :
    (q.bench oracle session.programs before).now = stopAt := by
  obtain ⟨hFollows, -, -⟩ := h.record_eq (by simp [hc]; omega) ha
  have hRule : q.cancelAt = some (q.bench oracle session.programs before).now :=
    (Follows.append_iff.mp hFollows).2.1
  rw [hc, Option.some.injEq] at hRule
  exact hRule.symm

theorem verdict_of_hasEnded (h : Held .prompt oracle q selection (before ++ after) session)
    (hc : q.cancelAt = some stopAt) (ha : oracle.unavailable = none)
    (hr : ∀ p ∈ session.programs, (oracle.behaviour p).reply.isFatal = false)
    (hNow : (q.bench oracle session.programs before).now < stopAt)
    (hEnded : (q.bench oracle session.programs before).hasEnded j = true)
    (hk : selection[j]? = some k) (hp : session.programs[j]? = some p) :
    session.report.verdicts[j]? =
      some (q.verifier.judge k (some ((oracle.behaviour p).reply.toOutcome k.id))) := by
  have hNot : q.cancelAt ≠ some 0 := by simp [hc]; omega
  have hCancelled : (q.bench oracle session.programs before).cancelled = false := by
    by_contra hCancelled
    have hAt := (h.timely hNot ha).at_stop (by simpa using hCancelled)
    rw [hc, Option.some.injEq] at hAt
    omega
  have hStopping : (q.bench oracle session.programs before).stopping = false := by
    simp [State.stopping, hCancelled, bench_aborted_eq_false q before hr]
  exact h.verdict hk (h.outcome_of_hasEnded hNot ha hStopping hEnded hk hp)

theorem ending (h : Held .prompt oracle q selection turns session)
    (hc : q.cancelAt = some stopAt) (hPos : 0 < stopAt) (ha : oracle.unavailable = none)
    (hr : ∀ p ∈ session.programs, (oracle.behaviour p).reply.isFatal = false)
    (hk : selection[j]? = some k) (hp : session.programs[j]? = some p) : ∃ e,
    (q.bench oracle session.programs turns).tasks[j]? = some (.ended e) ∧
    session.report.verdicts[j]? = some (q.verifier.judge k (some (e.toOutcome k.id))) ∧
    (e = .skipped ∨ ∃ start, start ≤ stopAt ∧
      (start + (oracle.behaviour p).delayMs ≤ stopAt ∧
          e = .replied start (start + (oracle.behaviour p).delayMs) (oracle.behaviour p).reply ∨
        stopAt ≤ start + (oracle.behaviour p).delayMs ∧ e = .dropped start stopAt)) := by
  have hNot : q.cancelAt ≠ some 0 := by simp [hc]; omega
  obtain ⟨p', e, hp', hb, he, -, hVerdict⟩ := h.task hNot ha hk
  obtain rfl := Option.some.inj (hp.symm.trans hp')
  rw [← List.append_nil turns] at h
  have hNow := h.now_le hc hPos ha
  have hTimely := (h.timely hNot ha).phase j _ _ hb he
  refine ⟨e, he, hVerdict, ?_⟩
  cases e with
  | skipped => exact .inl rfl
  | dropped start stop =>
      obtain ⟨hStart, hDue, hStop⟩ := hTimely
      have hAt := hStop (bench_aborted_eq_false q turns hr)
      rw [hc, Option.some.injEq] at hAt
      subst hAt
      exact .inr ⟨start, hStart, .inr ⟨hDue, rfl⟩⟩
  | replied start stop r =>
      obtain ⟨hStop, hLe⟩ := hTimely
      obtain rfl := (bench_faithful oracle q session.programs turns).reply j _ start stop r hb he
      subst hStop
      exact .inr ⟨start, by omega, .inl ⟨by omega, rfl⟩⟩

/-- A task that has not ended when the bench is stopped is cancelled. -/
theorem verdict_of_stop (h : Held rule oracle q selection (before ++ .stop :: after) session)
    (hc : q.cancelAt ≠ some 0) (ha : oracle.unavailable = none)
    (hEnded : (q.bench oracle session.programs before).hasEnded j = false)
    (hk : selection[j]? = some k) :
    session.report.verdicts[j]? =
      some (q.verifier.judge k (some (.error (.cancelled k.id)))) := by
  obtain ⟨p, e, -, hb, he, -, hVerdict⟩ := h.task hc ha hk
  have hSound := bench_sound oracle q session.programs before
  obtain ⟨phase, hBefore⟩ := hSound.exists_phase hb
  obtain ⟨p', hp', hDown⟩ := State.windsDown_of_turn hSound (t := .stop) after (by simp)
    (by simp [State.turn, State.stopping]) hBefore
  rw [q.bench_append] at he
  cases he.symm.trans hp'
  rw [State.hasEnded, hBefore, Option.any_some] at hEnded
  rw [hVerdict, hDown.toOutcome_eq hEnded]

/-- No job is started any more when the bench is stopped. -/
theorem hasBegun_of_stop {mid : List Turn}
    (hBegun : (q.bench oracle ps (before ++ .stop :: mid)).hasBegun j = true) :
    (q.bench oracle ps before).hasBegun j = true := by
  rw [q.bench_append] at hBegun
  exact State.hasBegun_of_turn (bench_sound oracle q ps before) (by simp)
    (by simp [State.turn, State.stopping]) hBegun

/-- Without a fatal reply the report is aborted exactly if a kind is cancelled. -/
theorem aborted_eq_any (h : Held rule oracle q selection turns session)
    (hc : q.cancelAt ≠ some 0) (ha : oracle.unavailable = none)
    (hr : ∀ p ∈ session.programs, (oracle.behaviour p).reply.isFatal = false) :
    session.report.aborted =
      if session.report.verdicts.any (·.category? == some .cancelled) then some cancelledReason
      else none := by
  have hAny : session.report.verdicts.any (·.category? == some .cancelled) =
      (errors session.record.outcomes).any RunError.isCancelled := by
    rw [Bool.eq_iff_iff]
    simpa [RunError.isCancelled_iff] using h.exists_category_iff (c := .cancelled) (by simp)
  have hReason := h.aborted_eq_abortReason? hc ha
  rw [abortReason?_of_not_fatal fun e he => h.not_fatal_of_mem_errors hc ha hr he] at hReason
  rw [hAny, ← hReason, h.report_aborted]

/-- Without a fatal reply a session is complete if it is not stopped before all tasks have ended. -/
theorem complete_of_late (h : Held rule oracle q selection turns session)
    (hc : q.cancelAt ≠ some 0) (ha : oracle.unavailable = none)
    (hr : ∀ p ∈ session.programs, (oracle.behaviour p).reply.isFatal = false)
    (hLate : ∀ before after, turns = before ++ .stop :: after →
      (q.bench oracle session.programs before).isDone = true) :
    Complete oracle selection session := by
  obtain ⟨hFollows, hDone, -⟩ := h.record_eq hc ha
  by_cases hCancelled : (q.bench oracle session.programs turns).cancelled = true
  · obtain ⟨before, t, after, rfl, hNot, hAt, -⟩ :=
      hFollows.exists_first (P := fun s => s.cancelled = true)
        (by simp [Request.opening, State.initial]) hCancelled
    obtain rfl : t = .stop := ((State.turn_cancelled t).mp hAt).resolve_left hNot
    have hBefore : (q.bench oracle session.programs before).cancelled = false :=
      Bool.eq_false_iff.mpr hNot
    refine h.complete hc ha ?_ (hLate before after rfl)
    simp [State.stopping, hBefore, bench_aborted_eq_false q before hr]
  · rw [← List.append_nil turns] at h
    refine h.complete hc ha ?_ hDone
    simp [State.stopping, hCancelled, bench_aborted_eq_false q turns hr]

theorem cancelledAt (h : Held .prompt oracle q selection turns session)
    (hc : q.cancelAt = some stopAt) (hPos : 0 < stopAt) (ha : oracle.unavailable = none)
    (hr : ∀ p ∈ session.programs, (oracle.behaviour p).reply.isFatal = false ∧
      (oracle.behaviour p).reply.isCancelled = false) :
    CancelledAt oracle q selection turns session stopAt := by
  have hNot : q.cancelAt ≠ some 0 := by simp [hc]; omega
  have hFatal : ∀ p ∈ session.programs, (oracle.behaviour p).reply.isFatal = false :=
    fun p hp => (hr p hp).1
  refine ⟨?_, ?_, ?_, ?_, ?_, ?_⟩
  · rintro before after j k p rfl hNow hEnded hk hp
    exact h.verdict_of_hasEnded hc ha hFatal hNow hEnded hk hp
  · intro j k p hk hp
    exact h.ending hc hPos ha hFatal hk hp
  · rintro before after rfl
    refine ⟨h.now_eq_of_stop hc hPos ha, ?_, ?_⟩
    · intro j k hEnded hk
      exact h.verdict_of_stop hNot ha hEnded hk
    · intro mid rest j _ hBegun
      exact hasBegun_of_stop hBegun
  · obtain ⟨-, -, hRecord⟩ := h.record_eq hNot ha
    rw [hRecord]
    rw [← List.append_nil turns] at h
    exact h.now_le hc hPos ha
  · exact h.aborted_eq_any hNot ha hFatal
  · intro hLate turns' session' h'
    have hPrograms : session'.programs = session.programs := h'.programs_eq h.mapM_eq
    have hr' := hPrograms.symm ▸ hr
    obtain ⟨vs, hSequential, hReport⟩ :=
      h.exists_sequential (h.complete_of_late hNot ha hFatal hLate) hNot ha hr
    have hComplete' := h'.complete_of_not_cancelled rfl ha fun p hp => (hr' p hp).1
    obtain ⟨vs', hSequential', hReport'⟩ := h'.exists_sequential hComplete' (by simp) ha hr'
    rw [hReport, hReport', Except.ok.inj (hSequential'.symm.trans hSequential)]

end Held

/-! ## Before the session begins -/

/-- A session that is cancelled before it begins is the same for all oracles: nothing is asked of
them, and all kinds are cancelled. -/
theorem exists_cancelled (hs : q.catalog.select q.requested = .ok selection)
    (hp : selection.mapM Kind.synthesizeDefault = .ok ps) (hc : q.cancelAt = some 0) :
    ∃ session, (∀ oracle, run oracle q = .ok session) ∧ session.record.probed = false ∧
      (∀ e ∈ session.record.endings, e = none) ∧
      session.report = .ofVerdicts q.head
        (selection.map fun k => q.verifier.judge k (some (.error (.cancelled k.id))))
        (some cancelledReason) := by
  let outcome := fun id : KindId => (id, (.error (.cancelled id) : Outcome))
  let record := Record.unstarted false ps (fun p => .cancelled p.kind) cancelledReason
  have hRun : ∀ oracle, run oracle q = .ok (q.conclude selection ps record) := by
    intro oracle
    have hExecute : execute oracle q ps = .ok record := if_pos hc
    exact run_eq_ok_iff.mpr ⟨selection, ps, record, hs, hp, hExecute, rfl⟩
  have hOutcomes : record.outcomes = (selection.map Kind.id).map outcome := by
    rw [← map_kind_of_mapM hp, List.map_map]
    rfl
  have hNodup : (record.outcomes.map Prod.fst).Nodup := by
    rw [hOutcomes, List.map_map]
    simpa [Function.comp_def, outcome] using Catalog.select_nodup hs
  have hVerdicts : q.verifier.verdicts selection record.outcomes =
      selection.map fun k => q.verifier.judge k (some (.error (.cancelled k.id))) := by
    refine List.map_congr_left fun k hk => ?_
    have hMem : outcome k.id ∈ record.outcomes :=
      hOutcomes ▸ List.mem_map_of_mem (List.mem_map_of_mem hk)
    rw [lookup_of_mem hNodup hMem]
  refine ⟨_, hRun, rfl, by simp [Request.conclude, record, Record.unstarted], ?_⟩
  rw [← hVerdicts]
  rfl

/-- **Cancelled sessions.** A session on a virtual clock that is cancelled after its start keeps
what has ended by then, and cancels the rest. `run` holds one for every number of permits that a
bench can have, and breaks down for every greater one. A session that is cancelled before it begins
cancels all kinds and asks nothing of its oracle, whatever the number of permits. -/
theorem cancelled_at (oracle : Oracle) (hs : q.catalog.select q.requested = .ok selection)
    (hp : selection.mapM Kind.synthesizeDefault = .ok ps) (hc : q.cancelAt = some stopAt) :
    (0 < stopAt → oracle.unavailable = none →
      (∀ p ∈ ps, (oracle.behaviour p).reply.isFatal = false ∧
        (oracle.behaviour p).reply.isCancelled = false) →
      (q.parallelism ≤ maxPermits →
        ∃ turns session, run oracle q = .ok session ∧
          Held .prompt oracle q selection turns session) ∧
      (∀ turns session, Held .prompt oracle q selection turns session →
        CancelledAt oracle q selection turns session stopAt) ∧
      (maxPermits < q.parallelism → run oracle q = .error (.panic tooManyPermits))) ∧
    (stopAt = 0 →
      ∃ session, (∀ oracle, run oracle q = .ok session) ∧ session.record.probed = false ∧
        (∀ e ∈ session.record.endings, e = none) ∧
        session.report = .ofVerdicts q.head
          (selection.map fun k => q.verifier.judge k (some (.error (.cancelled k.id))))
          (some cancelledReason)) := by
  constructor
  · intro hPos ha hr
    refine ⟨fun hFew => ?_, ?_, fun hMany => ?_⟩
    · obtain ⟨session, turns, hRun, h⟩ := exists_held hs hp (not_breaksDown oracle hFew)
      exact ⟨turns, session, hRun, h⟩
    · intro turns session h
      exact h.cancelledAt hc hPos ha (h.programs_eq hp ▸ hr)
    · exact run_of_breaksDown hs hp ⟨by simp [hc]; omega, ha, hMany⟩
  · rintro rfl
    exact exists_cancelled hs hp hc

theorem cancelled_at_mixed :
    (∃ turns session, run .mixed (.builtins 2 (some 15)) = .ok session ∧
      CancelledAt .mixed (.builtins 2 (some 15)) Kind.builtins turns session 15) ∧
    run .mixed (.builtins (maxPermits + 1) (some 15)) = .error (.panic tooManyPermits) ∧
    ∃ session, (∀ oracle, run oracle (.builtins (maxPermits + 1) (some 0)) = .ok session) ∧
      session.report.aborted = some "cancelled" := by
  refine ⟨?_, ?_, ?_⟩
  · obtain ⟨hRuns, hAll, -⟩ :=
      (cancelled_at (q := .builtins 2 (some 15)) .mixed rfl mapM_builtins rfl).1
        (by omega) rfl fun p _ => Oracle.mixed_reply p
    obtain ⟨turns, session, hRun, h⟩ := hRuns (by decide)
    exact ⟨turns, session, hRun, hAll turns session h⟩
  · obtain ⟨-, -, hMany⟩ :=
      (cancelled_at (q := .builtins (maxPermits + 1) (some 15)) .mixed rfl mapM_builtins rfl).1
        (by omega) rfl fun p _ => Oracle.mixed_reply p
    exact hMany (Nat.lt_succ_self maxPermits)
  · obtain ⟨session, hRun, -, -, hReport⟩ :=
      (cancelled_at (q := .builtins (maxPermits + 1) (some 0)) .mixed rfl mapM_builtins rfl).2 rfl
    exact ⟨session, hRun, by rw [hReport]; rfl⟩

end FaultBench.Bench

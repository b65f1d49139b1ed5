import FaultBench.Proofs.Bench.Reasons

/-!
# After a fatal reply

`Aborts` says that the poll of a task brings the first fatal reply of a bench. A bench that was
aborted has had such a poll (`Follows.exists_aborts`), and the phases of the tasks before it tell
how all of them end: a task that had ended keeps its reply, and any other task is cancelled
(`Aborts.toOutcome_eq`).

So in a session where some reply is fatal and that is not cancelled, one fatal reply counts, however
many there are, and it is the reason of the report (`aborted_of_fatal`).
-/

namespace FaultBench.Bench

namespace Phase.Ends

variable {s : State} {b : Behaviour} {p : Phase} {e : Ending}

theorem isEnded_eq_false (h : p.Ends s b e) : p.isEnded = false := by
  cases h with
  | skipped hp => cases hp <;> rfl
  | dropped => rfl
  | atOnce hp => cases hp <;> rfl
  | replied => rfl

theorem of_fatal (h : p.Ends s b e) (he : e.isFatal = true) :
    b.reply.isFatal = true ∧ ∃ start, e = .replied start s.now b.reply := by
  cases h with
  | skipped => cases he
  | dropped => cases he
  | atOnce => exact ⟨he, _, rfl⟩
  | replied => exact ⟨he, _, rfl⟩

end Phase.Ends

/-! ## The poll that aborts a bench -/

/-- Nothing stops the bench yet, and the poll of task `i` brings the fatal reply of its job `b`. -/
structure Aborts (jobs : List Behaviour) (s : State) (i : Nat) (b : Behaviour) : Prop where
  stopping : s.stopping = false
  job : jobs[i]? = some b
  fatal : b.reply.isFatal = true
  notEnded : s.hasEnded i = false
  replied : ∃ start,
    (s.poll jobs i).tasks[i]? = some (.ended (.replied start s.now b.reply))

variable {jobs : List Behaviour} {n : Nat} {s : State} {turns : List Turn} {i j : Nat}
  {b b' : Behaviour}

/-- A bench that is aborted in the end has had a poll that aborted it, unless it is stopped from
outside. -/
theorem Follows.exists_aborts (h : Follows .free jobs none s turns) (hSound : Sound jobs n s)
    (hs : s.stopping = false) (ha : (s.course jobs turns).aborted = true) :
    ∃ before i after b, turns = before ++ .poll i :: after ∧
      Aborts jobs (s.course jobs before) i b := by
  have hFlags : s.cancelled = false ∧ s.aborted = false := by
    simpa only [State.stopping, Bool.or_eq_false_iff] using hs
  obtain ⟨before, t, after, rfl, hNot, hAt, -⟩ :=
    h.exists_first (P := fun s => s.aborted = true) (by simp [hFlags.2]) ha
  have hCancelled : (s.course jobs before).cancelled = false :=
    (append_iff.mp h).1.cancelled_eq_false hFlags.1
  have hAborted : (s.course jobs before).aborted = false := by simpa using hNot
  obtain ⟨i, b, p, e, rfl, hb, hi, hEnds, hFatal, hAfter⟩ :=
    State.aborted_turn (hSound.course before) hAborted hAt
  obtain ⟨hReply, start, rfl⟩ := hEnds.of_fatal hFatal
  refine ⟨before, i, after, b, rfl, ?_, hb, hReply, ?_, start, hAfter⟩
  · simp [State.stopping, hCancelled, hAborted]
  · simp [State.hasEnded, hi, hEnds.isEnded_eq_false]

namespace Aborts

theorem turn_stopping (h : Aborts jobs s i b) (hSound : Sound jobs n s)
    (hFaithful : Faithful jobs s) : (s.turn jobs (.poll i)).stopping = true := by
  obtain ⟨start, hReplied⟩ := h.replied
  have hAborted := (hFaithful.turn hSound (.poll i)).aborted.mpr ⟨i, _, hReplied, h.fatal⟩
  simp [State.stopping, hAborted]

/-- A task that had ended before the bench was aborted has got its reply, and so has the one that
aborted it. Any other task is cancelled. -/
theorem toOutcome_eq (h : Aborts jobs s i b) (hSound : Sound jobs n s)
    (hFaithful : Faithful jobs s) {after : List Turn} {e : Ending} (hb : jobs[j]? = some b')
    (hj : (s.course jobs (.poll i :: after)).tasks[j]? = some (.ended e)) (kind : KindId) :
    e.toOutcome kind =
      if s.hasEnded j || j == i then b'.reply.toOutcome kind else .error (.cancelled kind) := by
  by_cases hij : j = i
  · subst hij
    obtain ⟨start, hReplied⟩ := h.replied
    obtain rfl := Option.some.inj (h.job.symm.trans hb)
    cases hj.symm.trans (State.course_ended (hSound.turn (.poll j)) after hReplied)
    simp [Ending.toOutcome]
  · obtain ⟨p, hBefore⟩ := hSound.exists_phase hb
    obtain ⟨p', hp', hDown⟩ := State.windsDown_of_turn hSound after
      (fun hPoll => hij (Turn.poll.inj hPoll).symm) (h.turn_stopping hSound hFaithful) hBefore
    cases hj.symm.trans hp'
    rw [hFaithful.toOutcome_eq h.stopping hb hBefore hDown kind, beq_false_of_ne hij, Bool.or_false]

/-- No other fatal reply counts than the one that aborted the bench. -/
theorem eq_of_fatal (h : Aborts jobs s i b) (hSound : Sound jobs n s)
    (hFaithful : Faithful jobs s) {after : List Turn} {e : Ending} (hb : jobs[j]? = some b')
    (hj : (s.course jobs (.poll i :: after)).tasks[j]? = some (.ended e)) {kind : KindId}
    {error : RunError} (he : e.toOutcome kind = .error error) (hFatal : error.isFatal = true) :
    j = i := by
  rw [h.toOutcome_eq hSound hFaithful hb hj] at he
  by_cases hij : j = i
  · exact hij
  · rw [beq_false_of_ne hij, Bool.or_false] at he
    split at he
    next hEnded =>
      obtain ⟨e', hp⟩ := State.hasEnded_iff.mp hEnded
      obtain ⟨start, stop, rfl⟩ := hFaithful.exists_reply h.stopping hb hp
      have hReply : b'.reply.isFatal = true := (Reply.of_toOutcome_eq_error he).1 ▸ hFatal
      have hAborted := hFaithful.aborted.mpr ⟨j, _, hp, hReply⟩
      have hStopping := h.stopping
      simp [State.stopping, hAborted] at hStopping
    next => cases he; cases hFatal

end Aborts

/-! ## Sessions with a fatal reply -/

section

variable {oracle : Oracle} {q : Request} {selection : List Kind} {session : Session}
  {before after : List Turn} {k : Kind} {p : Program}

/-- If a job has a fatal reply, the session is aborted in some poll, unless it is cancelled. -/
theorem Held.exists_aborts (h : Held .free oracle q selection turns session)
    (hc : q.cancelAt = none) (ha : oracle.unavailable = none)
    (hFatal : ∃ p ∈ session.programs, (oracle.behaviour p).reply.isFatal = true) :
    ∃ before i after b, turns = before ++ .poll i :: after ∧
      Aborts (oracle.jobs session.programs) (q.bench oracle session.programs before) i b := by
  obtain ⟨hFollows, hDone, -⟩ := h.record_eq (by simp [hc]) ha
  have hSound := bench_sound oracle q session.programs turns
  have hFaithful := bench_faithful oracle q session.programs turns
  refine Follows.exists_aborts (hc ▸ hFollows) (opening_sound oracle q session.programs) rfl ?_
  cases hAborted : (q.bench oracle session.programs turns).aborted with
  | true => exact hAborted
  | false =>
      -- Nothing stops such a bench, so the fatal reply is received in the end.
      have hCancelled : (q.bench oracle session.programs turns).cancelled = false :=
        Follows.cancelled_eq_false (hc ▸ hFollows) rfl
      have hStopping : (q.bench oracle session.programs turns).stopping = false := by
        simp [State.stopping, hCancelled, hAborted]
      obtain ⟨p, hp, hReply⟩ := hFatal
      obtain ⟨i, hi⟩ := List.mem_iff_getElem?.mp hp
      obtain ⟨e, he⟩ := exists_ending hDone hi
      obtain ⟨start, stop, rfl⟩ := hFaithful.exists_reply hStopping (oracle.getElem?_jobs hi) he
      simp [hFaithful.aborted.mpr ⟨i, _, he, hReply⟩] at hAborted

/-- What is recorded for a kind once it is known how the session was aborted. -/
theorem Held.outcome_of_aborts
    (h : Held .free oracle q selection (before ++ .poll i :: after) session)
    (hc : q.cancelAt ≠ some 0) (ha : oracle.unavailable = none)
    (hAborts : Aborts (oracle.jobs session.programs) (q.bench oracle session.programs before) i b)
    (hk : selection[j]? = some k) (hp : session.programs[j]? = some p) :
    session.record.outcomes[j]? = some (k.id,
      if (q.bench oracle session.programs before).hasEnded j || j == i then
        (oracle.behaviour p).reply.toOutcome k.id
      else .error (.cancelled k.id)) := by
  obtain ⟨p', e, hp', hb, he, hOutcome, -⟩ := h.task hc ha hk
  obtain rfl := Option.some.inj (hp.symm.trans hp')
  rw [q.bench_append] at he
  rw [hOutcome, hAborts.toOutcome_eq (bench_sound oracle q session.programs before)
    (bench_faithful oracle q session.programs before) hb he]

/-- The one fatal error that is recorded is that of the task that aborted the session. -/
theorem Held.eq_of_fatal (h : Held .free oracle q selection (before ++ .poll i :: after) session)
    (hc : q.cancelAt ≠ some 0) (ha : oracle.unavailable = none)
    (hAborts : Aborts (oracle.jobs session.programs) (q.bench oracle session.programs before) i b)
    {id : KindId} {e : RunError} (hj : session.record.outcomes[j]? = some (id, .error e))
    (hFatal : e.isFatal = true) : j = i := by
  obtain ⟨p, ending, -, hb, he, hError⟩ := h.task_of_outcome hc ha hj
  rw [q.bench_append] at he
  exact hAborts.eq_of_fatal (bench_sound oracle q session.programs before)
    (bench_faithful oracle q session.programs before) hb he hError.symm hFatal

/-- **Abort after a fatal reply.** If some reply is fatal and the session is not cancelled, there is
a poll that brings a fatal reply before any other does, whatever turns the tasks take. No other job
is started from that poll on, the kind of that task alone has a verdict that no program can be run,
kinds whose tasks had ended keep the verdicts on their own outcomes, all others are cancelled, and
the report is aborted for the error of that reply. -/
theorem aborted_of_fatal (h : Held .free oracle q selection turns session)
    (hc : q.cancelAt = none) (ha : oracle.unavailable = none)
    (hFatal : ∃ p ∈ session.programs, (oracle.behaviour p).reply.isFatal = true) :
    ∃ (before after : List Turn) (i : Nat) (k : Kind) (p : Program) (e : RunError),
      turns = before ++ .poll i :: after ∧
      selection[i]? = some k ∧ session.programs[i]? = some p ∧
      (oracle.behaviour p).reply = .outcome (.error e) ∧
      Aborts (oracle.jobs session.programs) (q.bench oracle session.programs before) i
        (oracle.behaviour p) ∧
      (∀ (mid rest : List Turn) (j : Nat), after = mid ++ rest → j ≠ i →
        (q.bench oracle session.programs (before ++ .poll i :: mid)).hasBegun j = true →
        (q.bench oracle session.programs before).hasBegun j = true) ∧
      (∀ (j : Nat) (v : Verdict), session.report.verdicts[j]? = some v →
        (v.category? = some .toolUnavailable ↔ j = i)) ∧
      (∀ (j : Nat) (k : Kind) (p : Program), selection[j]? = some k →
        session.programs[j]? = some p →
        session.report.verdicts[j]? = some (q.verifier.judge k (some
          (if (q.bench oracle session.programs before).hasEnded j || j == i then
            (oracle.behaviour p).reply.toOutcome k.id
          else .error (.cancelled k.id))))) ∧
      session.report.aborted = some e.message ∧ session.report.exitCode = 2 := by
  have hNot : q.cancelAt ≠ some 0 := by simp [hc]
  obtain ⟨before, i, after, b, rfl, hAborts⟩ := h.exists_aborts hc ha hFatal
  have hSound := bench_sound oracle q session.programs before
  have hFaithful := bench_faithful oracle q session.programs before
  obtain ⟨p, hp, rfl⟩ : ∃ p, session.programs[i]? = some p ∧ oracle.behaviour p = b := by
    have hJob := hAborts.job
    rwa [Oracle.jobs, List.getElem?_map, Option.map_eq_some_iff] at hJob
  obtain ⟨k, hk⟩ : ∃ k, selection[i]? = some k := h.exists_kind_of_program hp
  obtain ⟨e, hReply, he⟩ := Reply.exists_of_isFatal hAborts.fatal
  have hOutcome : session.record.outcomes[i]? = some (k.id, .error e) := by
    rw [h.outcome_of_aborts hNot ha hAborts hk hp, beq_self_eq_true, Bool.or_true, if_pos rfl,
      hReply]
    rfl
  have hReason : session.record.aborted = some e.message := by
    rw [h.aborted_eq_abortReason? hNot ha]
    refine abortReason?_of_fatal hOutcome he fun j id e' hj hError => ?_
    by_contra hFatal'
    have hEq := h.eq_of_fatal hNot ha hAborts hError (by simpa using hFatal')
    omega
  have hAborted : session.report.aborted = some e.message := h.report_aborted.trans hReason
  refine ⟨before, after, i, k, p, e, rfl, hk, hp, hReply, hAborts, ?_, ?_, ?_, hAborted, ?_⟩
  · intro mid rest j _ hj hBegun
    rw [q.bench_append] at hBegun
    exact State.hasBegun_of_turn hSound (fun hPoll => hj (Turn.poll.inj hPoll).symm)
      (hAborts.turn_stopping hSound hFaithful) hBegun
  · intro j v hv
    obtain ⟨k', o, -, ho, rfl⟩ := h.exists_outcome hv
    rw [Verifier.category?_judge (by simp)]
    constructor
    · rintro ⟨e', rfl, hCategory⟩
      exact h.eq_of_fatal hNot ha hAborts ho (RunError.isFatal_iff.mpr hCategory)
    · rintro rfl
      have hError : o = .error e := congrArg Prod.snd (Option.some.inj (ho.symm.trans hOutcome))
      exact ⟨e, hError, RunError.isFatal_iff.mp he⟩
  · intro j k' p' hk' hp'
    exact h.verdict hk' (h.outcome_of_aborts hNot ha hAborts hk' hp')
  · simp [Report.exitCode, hAborted]

end

/-- What runs a program that leaks at once, and finds on all others after a while that its compiler
is gone. -/
def Oracle.lost : Oracle where
  unavailable := none
  behaviour := fun p =>
    match p.faultClass with
    | .leak => ⟨0, .outcome (.ok ⟨p, some 23, none, "", "detected memory leaks", "", 1, false⟩)⟩
    | _ => ⟨10, .outcome (.error (.toolUnavailable "clang" "not found"))⟩

theorem aborted_of_fatal_lost :
    ∃ session, run .lost (.builtins 2 none) = .ok session ∧
      (∃ p ∈ session.programs, (Oracle.lost.behaviour p).reply.isFatal = true) ∧
      session.report.aborted = some "tool unavailable: clang: not found" ∧
      ∃ i : Nat, ∀ (j : Nat) (v : Verdict), session.report.verdicts[j]? = some v →
        (v.category? = some .toolUnavailable ↔ j = i) := by
  obtain ⟨session, turns, hRun, h⟩ := exists_held (q := .builtins 2 none) rfl mapM_builtins
    (not_breaksDown .lost (by decide))
  have hFatal : ∃ p ∈ session.programs, (Oracle.lost.behaviour p).reply.isFatal = true := by
    rw [h.programs_eq mapM_builtins]
    exact ⟨_, List.mem_map_of_mem (List.mem_of_getElem? (i := 0) rfl), rfl⟩
  obtain ⟨_, _, i, _, p, e, -, -, -, hReply, hAborts, -, hOnly, -, hAborted, -⟩ :=
    aborted_of_fatal h.free_of_prompt rfl rfl hFatal
  refine ⟨session, hRun, hFatal, ?_, i, hOnly⟩
  have hError : e = .toolUnavailable "clang" "not found" := by
    cases hClass : p.faultClass <;> simp [Oracle.lost, hClass] at hReply <;> exact hReply.symm
  rw [hAborted, hError]
  rfl

end FaultBench.Bench

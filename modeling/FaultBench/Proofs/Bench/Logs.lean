import FaultBench.Bench.Log
import FaultBench.Proofs.Bench.Sessions

/-!
# Logs by turns

`Session.log` is what a session logs if each job logs all at once when it replies. Here a session
is logged turn by turn: a task logs that its job gave a fatal reply in the poll in which it gets
it, and between two turns the oracle logs what it likes. A `Logged` log is one that a session by
given turns can leave.

* `State.told_turn`: what the tasks have logged grows by what they log in a turn, so each of them
  logs what its reply asks for, once (`State.exists_courseLog`).
* `Held.exists_logged`: up to the order of what is logged in its course, the log of a session is one
  that it can leave by its turns.
-/

namespace FaultBench.Bench

/-- What a task logs when it comes to a phase: that its job gave a fatal reply. -/
def Phase.log (kind : KindId) : Phase → List LogRecord
  | .ended (.replied _ _ r) => r.log kind
  | _ => []

variable {rule : Rule} {own : LogRecord → Prop} {oracle : Oracle} {q : Request}
  {selection : List Kind} {ps : List Program} {jobs : List Behaviour} {turns : List Turn}
  {session : Session} {r : Record} {s : State} {log : List LogRecord}

/-! ## What turns log -/

/-- What task `i` logs in a poll from `s` to `s'`. -/
def State.pollLog (ps : List Program) (s s' : State) (i : Nat) : List LogRecord :=
  match ps[i]?, s.tasks[i]?, s'.tasks[i]? with
  | some p, some before, some after => if before.isEnded then [] else after.log p.kind
  | _, _, _ => []

def State.turnLog (ps : List Program) (jobs : List Behaviour) (s : State) : Turn → List LogRecord
  | .poll i => s.pollLog ps (s.poll jobs i) i
  | _ => []

/-- What can be logged in a course. Between its turns the oracle logs records of its own. -/
inductive CourseLog (own : LogRecord → Prop) (ps : List Program) (jobs : List Behaviour) :
    State → List Turn → List LogRecord → Prop
  | nil {s : State} {aside : List LogRecord} (ha : ∀ r ∈ aside, own r) :
      CourseLog own ps jobs s [] aside
  | cons {s : State} {t : Turn} {ts : List Turn} {aside log : List LogRecord}
      (ha : ∀ r ∈ aside, own r) (hLog : CourseLog own ps jobs (s.turn jobs t) ts log) :
      CourseLog own ps jobs s (t :: ts) (aside ++ s.turnLog ps jobs t ++ log)

/-- What can be logged between the start of a session and its verdicts. -/
inductive ExecuteLog (own : LogRecord → Prop) (oracle : Oracle) (q : Request) (ps : List Program)
    (turns : List Turn) (r : Record) : List LogRecord → Prop
  | cancelled (hc : q.cancelAt = some 0) : ExecuteLog own oracle q ps turns r []
  | unavailable {e : RunError} {aside : List LogRecord} (hc : q.cancelAt ≠ some 0)
      (he : oracle.unavailable = some e) (ha : ∀ r ∈ aside, own r) :
      ExecuteLog own oracle q ps turns r (aside ++ [.unavailable e.message])
  | ended {aside log : List LogRecord} (hc : q.cancelAt ≠ some 0) (he : oracle.unavailable = none)
      (ha : ∀ r ∈ aside, own r)
      (hLog : CourseLog own ps (oracle.jobs ps) (q.opening ps) turns log) :
      ExecuteLog own oracle q ps turns r (aside ++ log ++ [.finished ps.length r.aborted.isSome])

/-- The log of a session, given what was logged between its start and its verdicts. -/
def Session.framed (q : Request) (session : Session) (log : List LogRecord) : List LogRecord :=
  let event := LogRecord.ofEvent q.head.runId.text
  session.programs.map .synthesized ++ event (.started session.programs.length q.permits) :: log ++
    session.judged.map .judged ++ (session.report.verdicts.map .ofVerdict).map event ++
    [event (closing session.report session.record.tookMs)]

/-- A session by the given turns can leave the log. -/
def Logged (own : LogRecord → Prop) (oracle : Oracle) (q : Request) (turns : List Turn)
    (session : Session) (log : List LogRecord) : Prop :=
  ∃ course, ExecuteLog own oracle q session.programs turns session.record course ∧
    log = session.framed q course

/-! ## What has been logged -/

/-- What each task has logged. -/
def State.told (ps : List Program) (s : State) : List (List LogRecord) :=
  List.zipWith (fun p phase => phase.log p.kind) ps s.tasks

theorem flatten_set_perm {α : Type} {xs : List (List α)} {i : Nat} (h : xs[i]? = some [])
    (x : List α) : (xs.set i x).flatten.Perm (xs.flatten ++ x) := by
  obtain ⟨hi, hEmpty⟩ := List.getElem?_eq_some_iff.mp h
  have hRest : (xs.eraseIdx i).flatten.Perm xs.flatten := by
    have hAll := (List.getElem_cons_eraseIdx_perm hi).flatten
    rwa [hEmpty] at hAll
  have hSet : (xs.set i x).flatten.Perm (x ++ (xs.eraseIdx i).flatten) :=
    (List.set_perm_cons_eraseIdx hi x).flatten
  exact hSet.trans (List.perm_append_comm.trans (hRest.append_right x))

variable {n : Nat}

theorem State.getElem?_told (ps : List Program) (s : State) {i : Nat} {p : Program} {phase : Phase}
    (hp : ps[i]? = some p) (hi : s.tasks[i]? = some phase) :
    (s.told ps)[i]? = some (phase.log p.kind) := by
  simp [told, List.getElem?_zipWith, hp, hi]

/-- In the poll of a task no other task logs anything. -/
theorem State.told_poll_of_ne (h : Sound jobs n s) (ps : List Program) {i j : Nat} (hij : i ≠ j) :
    ((s.poll jobs i).told ps)[j]? = (s.told ps)[j]? := by
  simp only [told, List.getElem?_zipWith]
  cases ps[j]? with
  | none => rfl
  | some p =>
      cases hj : s.tasks[j]? with
      | none =>
          have hLength : (s.poll jobs i).tasks.length = s.tasks.length :=
            ((h.turn (.poll i)).length).trans h.length.symm
          rw [List.getElem?_eq_none_iff] at hj
          rw [List.getElem?_eq_none (hLength ▸ hj)]
      | some phase =>
          rcases (s.polled_poll jobs i).phase_of_ne h hij hj with hSame | ⟨rfl, hAdmitted⟩
          · rw [hSame]
          · rw [hAdmitted]
            rfl

/-- What the tasks have logged after a turn is what they had logged before, and what they log in
it. -/
theorem State.told_turn (h : Sound jobs n s) (hps : ps.length = jobs.length) (t : Turn) :
    ((s.turn jobs t).told ps).flatten.Perm ((s.told ps).flatten ++ s.turnLog ps jobs t) := by
  cases t with
  | wait t => simp [turnLog, turn, told]
  | stop => simp [turnLog, turn, told]
  | poll i =>
      cases hb : jobs[i]? with
      | none =>
          have hp : ps[i]? = none := by
            rw [List.getElem?_eq_none_iff] at hb ⊢
            omega
          simp [turn, poll, turnLog, pollLog, hb, hp]
      | some b =>
          obtain ⟨phase, hi⟩ := h.exists_phase hb
          obtain ⟨p, hp⟩ : ∃ p, ps[i]? = some p := by
            have hlt := (List.getElem?_eq_some_iff.mp hb).1
            exact ⟨_, List.getElem?_eq_getElem (hps ▸ hlt)⟩
          obtain ⟨after, hAfter, hNext, -⟩ := (s.polled_poll jobs i).phase h hb hi
          have hTold : (s.poll jobs i).told ps = (s.told ps).set i (after.log p.kind) := by
            refine List.ext_getElem? fun j => ?_
            by_cases hij : i = j
            · subst hij
              obtain ⟨hlt, -⟩ := List.getElem?_eq_some_iff.mp (getElem?_told ps s hp hi)
              rw [getElem?_told ps _ hp hAfter, List.getElem?_set_self hlt]
            · rw [told_poll_of_ne h ps hij, List.getElem?_set_ne hij]
          have hLog : s.turnLog ps jobs (.poll i) =
              if phase.isEnded then [] else after.log p.kind := by
            simp [turnLog, pollLog, hp, hi, hAfter]
          rw [turn, hTold, hLog]
          cases phase with
          | ended e =>
              obtain rfl := hNext.of_ended
              obtain ⟨hlt, hSame⟩ := List.getElem?_eq_some_iff.mp (getElem?_told ps s hp hi)
              rw [← hSame, List.set_getElem_self]
              simp [Phase.isEnded]
          | fresh => exact flatten_set_perm (getElem?_told ps s hp hi) _
          | queued => exact flatten_set_perm (getElem?_told ps s hp hi) _
          | admitted => exact flatten_set_perm (getElem?_told ps s hp hi) _
          | running t => exact flatten_set_perm (getElem?_told ps s hp hi) _

/-- There is a log of each course in which the tasks log what they have logged in the end. -/
theorem State.exists_courseLog (own : LogRecord → Prop) (h : Sound jobs n s)
    (hps : ps.length = jobs.length) (turns : List Turn) :
    ∃ log, CourseLog own ps jobs s turns log ∧
      ((s.course jobs turns).told ps).flatten.Perm ((s.told ps).flatten ++ log) := by
  induction turns generalizing s with
  | nil => exact ⟨[], .nil (List.forall_mem_nil _), by simp⟩
  | cons t ts ih =>
      obtain ⟨log, hLog, hTold⟩ := ih (h.turn t)
      refine ⟨_, .cons (List.forall_mem_nil _) hLog, ?_⟩
      rw [List.nil_append, ← List.append_assoc]
      exact hTold.trans ((told_turn h hps t).append_right log)

theorem State.told_initial (ps : List Program) (permits tasks : Nat) :
    ((State.initial permits tasks).told ps).flatten = [] := by
  rw [List.flatten_eq_nil_iff]
  intro log hLog
  obtain ⟨i, hi⟩ := List.mem_iff_getElem?.mp hLog
  obtain ⟨p, phase, -, hPhase, rfl⟩ := List.getElem?_zipWith_eq_some.mp hi
  obtain rfl : phase = .fresh := List.eq_of_mem_replicate (List.mem_of_getElem? hPhase)
  rfl

/-- What is logged of those that `f` picks from pairs is what is logged of each pair, if those that
are not picked log nothing. -/
theorem flatMap_filterMap_zip {α β γ δ ε : Type} {f : α × γ → Option δ} {g : δ → List ε}
    {m : β → γ} {k : α → β → List ε} (h : ∀ a b, (f (a, m b)).toList.flatMap g = k a b)
    (as : List α) (bs : List β) :
    ((as.zip (bs.map m)).filterMap f).flatMap g = (List.zipWith k as bs).flatten := by
  induction as generalizing bs with
  | nil => rfl
  | cons a as ih =>
      cases bs with
      | nil => rfl
      | cons b bs =>
          rw [List.map_cons, List.zip_cons_cons, List.zipWith_cons_cons, List.flatten_cons, ← h,
            ← ih]
          cases hf : f (a, m b) with
          | none => simp [List.filterMap_cons_none hf]
          | some c => simp [List.filterMap_cons_some hf]

/-- What the tasks of a session have logged is what is logged of its replies. -/
theorem Session.told_perm (session : Session) {s : State}
    (h : session.record.endings = s.tasks.map Phase.ending?) :
    (s.told session.programs).flatten.Perm
      (session.replies.flatMap fun x => x.2.2.log x.1.kind) := by
  unfold replies State.told
  rw [h, ← flatMap_filterMap_zip]
  · exact (List.mergeSort_perm _ _).symm.flatMap_right _
  · intro p phase
    cases phase with
    | ended e => cases e <;> simp [Phase.ending?, Phase.log]
    | _ => rfl

/-! ## Logs of sessions -/

variable {available : List LogRecord} {job : Program → List LogRecord}

/-- The log of a session that was held has its events around what was logged in its course. -/
theorem Held.log_eq (h : Held rule oracle q selection turns session) (available : List LogRecord)
    (job : Program → List LogRecord) :
    session.log available job = session.framed q (session.courseLog available job) := by
  cases h with
  | mk =>
      simp only [Session.log, Session.framed, Request.conclude, List.take_succ_cons, List.take_zero,
        List.drop_succ_cons, List.drop_zero, List.map_cons, List.map_append, List.map_nil,
        List.append_assoc, List.cons_append, List.nil_append]
      rfl

/-- Tasks that have ended were started, so the session was not given up before. -/
theorem courseLog_ofState {s : State} (hs : s.isDone = true) (q : Request) (selection : List Kind)
    (ps : List Program) :
    let session := q.conclude selection ps (.ofState ps s)
    session.courseLog available job =
      Session.courseLog.course session available job session.record.aborted.isSome := by
  intro session
  have hEndings : session.record.aborted.isSome = true →
      session.record.endings.all Option.isNone = false := by
    intro hAborted
    have hTasks : s.tasks ≠ [] := by
      intro hNone
      have hOutcomes : Record.outcomesOf ps s = [] := by simp [Record.outcomesOf, hNone]
      have hReason : session.record.aborted = abortReason? (Record.outcomesOf ps s) := rfl
      rw [hReason, hOutcomes] at hAborted
      cases hAborted
    obtain ⟨phase, rest, hCons⟩ := List.exists_cons_of_ne_nil hTasks
    obtain ⟨e, rfl⟩ := State.isDone_iff.mp hs 0 phase (by simp [hCons])
    have hMap : session.record.endings = s.tasks.map Phase.ending? := rfl
    rw [hMap, hCons]
    rfl
  unfold Session.courseLog
  have hProbed : session.record.probed = true := rfl
  simp only [hProbed, Bool.not_true, Bool.false_eq_true, if_false]
  cases hAborted : session.record.aborted with
  | none => rfl
  | some reason => simp [hEndings (by simp [hAborted])]

/-- The log of a session is, up to the order in which its tasks log, one that the session can leave
by its turns. -/
theorem Held.exists_logged (own : LogRecord → Prop)
    (h : Held rule oracle q selection turns session)
    (hAvailable : ∀ r ∈ available, own r) (hJob : ∀ p, ∀ r ∈ job p, own r) :
    ∃ log, Logged own oracle q turns session log ∧ log.Perm (session.log available job) := by
  suffices hCourse : ∃ course,
      ExecuteLog own oracle q session.programs turns session.record course ∧
      course.Perm (session.courseLog available job) by
    obtain ⟨course, hCourse, hPerm⟩ := hCourse
    refine ⟨_, ⟨course, hCourse, rfl⟩, ?_⟩
    rw [h.log_eq]
    unfold Session.framed
    dsimp only
    exact (((((hPerm.cons _).append_left _).append_right _).append_right _).append_right _)
  cases h with
  | @mk ps r hs hp hr =>
      cases hr with
      | cancelled hc => exact ⟨[], .cancelled hc, .refl _⟩
      | unavailable hc he =>
          refine ⟨_, .unavailable hc he (List.forall_mem_nil _), ?_⟩
          simp [Session.courseLog, Request.conclude, Record.unstarted]
      | ended hc he hf hd =>
          obtain ⟨log, hLog, hTold⟩ := State.exists_courseLog own (opening_sound oracle q ps)
            (List.length_map ..).symm turns
          rw [Request.opening, State.told_initial, List.nil_append] at hTold
          -- The oracle logs all that its jobs do before the first turn.
          let session := q.conclude selection ps (.ofState ps (q.bench oracle ps turns))
          let aside := available ++ session.replies.flatMap fun x => job x.1
          have hAside : ∀ r ∈ aside, own r := by
            intro r hr
            rcases List.mem_append.mp hr with hr | hr
            · exact hAvailable r hr
            · obtain ⟨x, -, hr⟩ := List.mem_flatMap.mp hr
              exact hJob x.1 r hr
          have hReplies : log.Perm (session.replies.flatMap fun x => x.2.2.log x.1.kind) :=
            hTold.symm.trans (session.told_perm rfl)
          refine ⟨_, .ended hc he hAside hLog, ?_⟩
          rw [courseLog_ofState hd]
          refine .append_right _ ?_
          rw [List.append_assoc]
          exact .append_left _ ((hReplies.append_left _).trans (List.flatMap_append_perm ..))

end FaultBench.Bench

import FaultBench.Proofs.Bench.Endings

/-!
# The clock

A sound bench with a permit is never stuck: while a task has not ended, a task would get on or a job
is in flight whose reply is still to come (`exists_running`). In particular the tasks of a bench
that is being stopped end without any time passing.

`Timely` says what this makes of a course by the rule of a virtual clock: a job that is in flight is
not overdue, a reply came exactly when it was due, and the bench was stopped exactly at its time.
-/

namespace FaultBench.Bench

namespace State

variable {jobs : List Behaviour} {n : Nat} {s : State}

theorem not_ready {j : Nat} {b : Behaviour} {p : Phase} (h : s.ready? jobs = none)
    (hb : jobs[j]? = some b) (hj : s.tasks[j]? = some p) : s.isReady b p = false := by
  rw [ready?, List.findIdx?_eq_none_iff] at h
  have hZip : (jobs.zip s.tasks)[j]? = some (b, p) := List.getElem?_zip_eq_some.mpr ⟨hb, hj⟩
  exact h (b, p) (List.mem_of_getElem? hZip)

/-- The task that would get on first has none before it. -/
theorem not_ready_of_lt {i j : Nat} {b : Behaviour} {p : Phase} (h : s.ready? jobs = some i)
    (hj : j < i) (hb : jobs[j]? = some b) (hp : s.tasks[j]? = some p) : s.isReady b p = false := by
  rw [ready?, List.findIdx?_eq_some_iff_getElem] at h
  obtain ⟨hlt, -, hBefore⟩ := h
  have hZip : (jobs.zip s.tasks)[j]? = some (b, p) := List.getElem?_zip_eq_some.mpr ⟨hb, hp⟩
  have hNot := hBefore j hj
  rw [List.getElem?_eq_getElem (by omega), Option.some.injEq] at hZip
  rw [hZip] at hNot
  simpa using hNot

theorem exists_ready {i : Nat} (h : s.ready? jobs = some i) :
    ∃ b p, jobs[i]? = some b ∧ s.tasks[i]? = some p ∧ s.isReady b p = true := by
  rw [ready?, List.findIdx?_eq_some_iff_getElem] at h
  obtain ⟨hlt, hReady, -⟩ := h
  have hZip := List.getElem?_zip_eq_some.mp (List.getElem?_eq_getElem hlt)
  exact ⟨_, _, hZip.1, hZip.2, hReady⟩

/-- Where no task would get on, a task that has a permit waits for the reply of its job. -/
theorem running_of_holds {j : Nat} {b : Behaviour} {p : Phase} (h : s.ready? jobs = none)
    (hb : jobs[j]? = some b) (hj : s.tasks[j]? = some p) (hp : p.holds = true) :
    s.stopping = false ∧ ∃ t, p = .running t ∧ s.now < t + b.delayMs := by
  have hNot := not_ready h hb hj
  cases p with
  | running t =>
      simp only [isReady, Bool.or_eq_false_iff, decide_eq_false_iff_not] at hNot
      exact ⟨hNot.1, t, rfl, by omega⟩
  | admitted => simp [isReady] at hNot
  | fresh => simp [Phase.holds] at hp
  | queued => simp [Phase.holds] at hp
  | ended e => simp [Phase.holds] at hp

/-- A bench with a permit is never stuck: if its tasks have not ended and none of them would get on,
it is not being stopped, and a job is in flight whose reply is still to come. -/
theorem exists_running (h : Sound jobs n s) (hn : 0 < n) (hDone : s.isDone = false)
    (hReady : s.ready? jobs = none) :
    s.stopping = false ∧ ∃ (j : Nat) (b : Behaviour) (t : Nat), jobs[j]? = some b ∧
      s.tasks[j]? = some (.running t) ∧ s.now < t + b.delayMs := by
  obtain ⟨k, q, hk, hHolds⟩ : ∃ (k : Nat) (q : Phase), s.tasks[k]? = some q ∧ q.holds = true := by
    obtain ⟨p, hp, hEnded⟩ := List.all_eq_false.mp hDone
    obtain ⟨j, hj⟩ := List.mem_iff_getElem?.mp hp
    obtain ⟨b, hb⟩ := h.exists_job hj
    have hNot := not_ready hReady hb hj
    cases p with
    | fresh => simp [isReady] at hNot
    | ended e => simp [Phase.isEnded] at hEnded
    | admitted => exact ⟨j, _, hj, rfl⟩
    | running t => exact ⟨j, _, hj, rfl⟩
    | queued =>
        -- The task waits, so no permit is free, and some other task has one.
        have hFree := h.free_eq_zero (List.ne_nil_of_mem ((h.mem_queue j).mpr hj))
        have hPermits := h.permits
        have hPos : 0 < s.tasks.countP Phase.holds := by omega
        obtain ⟨q, hq, hHolds⟩ := List.countP_pos_iff.mp hPos
        obtain ⟨k, hk⟩ := List.mem_iff_getElem?.mp hq
        exact ⟨k, q, hk, hHolds⟩
  obtain ⟨b, hb⟩ := h.exists_job hk
  obtain ⟨hStopping, t, rfl, hDue⟩ := running_of_holds hReady hb hk hHolds
  exact ⟨hStopping, k, b, t, hb, hk, hDue⟩

/-- A reply that is still to come is one of the moments at which something happens. -/
theorem mem_moments_of_running (cancelAt : Option Nat) {j t : Nat} {b : Behaviour}
    (hb : jobs[j]? = some b) (hj : s.tasks[j]? = some (.running t)) :
    t + b.delayMs ∈ s.moments jobs cancelAt := by
  have hZip : (jobs.zip s.tasks)[j]? = some (b, .running t) :=
    List.getElem?_zip_eq_some.mpr ⟨hb, hj⟩
  refine List.mem_append_right _ (List.mem_filterMap.mpr ?_)
  exact ⟨(b, .running t), List.mem_of_getElem? hZip, rfl⟩

theorem mem_moments_of_cancelAt {stopAt : Nat} (hs : s.cancelled = false) :
    stopAt ∈ s.moments jobs (some stopAt) := by
  simp [moments, hs]

end State

/-! ## Courses on a virtual clock -/

/-- Where a task with the job `b` is on time in the state: its job is not overdue, its reply came
when it was due, or its job was dropped before that, at the time at which the bench is stopped
unless a fatal reply aborted it. -/
def Phase.Timely (cancelAt : Option Nat) (s : State) (b : Behaviour) : Phase → Prop
  | .running start => start ≤ s.now ∧ s.now ≤ start + b.delayMs
  | .ended (.replied start stop _) => stop = start + b.delayMs ∧ stop ≤ s.now
  | .ended (.dropped start stop) =>
    start ≤ stop ∧ stop ≤ start + b.delayMs ∧ (s.aborted = false → cancelAt = some stop)
  | _ => True

/-- A bench on a virtual clock is stopped exactly at its time, and its tasks are on time. -/
structure Timely (jobs : List Behaviour) (cancelAt : Option Nat) (s : State) : Prop where
  before_stop : s.cancelled = false → ∀ stopAt, cancelAt = some stopAt → s.now ≤ stopAt
  at_stop : s.cancelled = true → cancelAt = some s.now
  phase : ∀ (j : Nat) (b : Behaviour) (p : Phase), jobs[j]? = some b → s.tasks[j]? = some p →
    p.Timely cancelAt s b

variable {jobs : List Behaviour} {cancelAt : Option Nat} {n : Nat} {s s' : State}

/-- A change of phase in which no time passes keeps a task on time. -/
theorem Phase.Next.timely {b : Behaviour} {p p' : Phase} (hNext : p.Next s s' b p')
    (hNow : s'.now = s.now) (hAborted : s.aborted = true → s'.aborted = true)
    (hStop : s.cancelled = true → cancelAt = some s.now) (h : p.Timely cancelAt s b) :
    p'.Timely cancelAt s' b := by
  have hNot : s'.aborted = false → s.aborted = false := by
    cases hs : s.aborted with
    | false => exact fun _ => rfl
    | true => simp [hAborted hs]
  cases hNext with
  | same =>
      cases p with
      | fresh => trivial
      | queued => trivial
      | admitted => trivial
      | running start => simpa only [Phase.Timely, hNow] using h
      | ended e => cases e with
        | skipped => trivial
        | dropped start stop => exact ⟨h.1, h.2.1, fun ha => h.2.2 (hNot ha)⟩
        | replied start stop r => simpa only [Phase.Timely, hNow] using h
  | queued => trivial
  | admitted => trivial
  | started => exact ⟨by omega, by omega⟩
  | ended he ha => cases he with
    | skipped => trivial
    | @dropped t hs =>
        refine ⟨h.1, h.2, fun ha' => hStop ?_⟩
        simpa [State.stopping, hNot ha'] using hs
    | atOnce hp hs hd => exact ⟨by omega, by omega⟩
    | @replied t hs hd =>
        have hDue : s.now ≤ t + b.delayMs := h.2
        exact ⟨by omega, by omega⟩

namespace Timely

theorem initial {permits tasks : Nat} :
    Timely jobs cancelAt (.initial permits tasks) where
  before_stop := fun _ _ _ => Nat.zero_le _
  at_stop := fun h => by simp [State.initial] at h
  phase := by
    intro j b p _ hj
    simp only [State.initial, List.getElem?_replicate] at hj
    split at hj
    · cases hj
      trivial
    · cases hj

theorem turn (hSound : Sound jobs n s) (hn : 0 < n) (h : Timely jobs cancelAt s) {t : Turn}
    (hRule : Rule.prompt jobs cancelAt s t) : Timely jobs cancelAt (s.turn jobs t) := by
  cases t with
  | poll i =>
      have hPoll := s.polled_poll jobs i
      refine ⟨?_, ?_, ?_⟩
      · intro hc
        simpa only [State.turn, hPoll.now] using h.before_stop (hPoll.cancelled ▸ hc)
      · intro hc
        simpa only [State.turn, hPoll.now] using h.at_stop (hPoll.cancelled ▸ hc)
      · intro j b p' hb hj
        obtain ⟨p, hp, hNext⟩ := State.exists_phase_before hSound (.poll i) hb hj
        exact hNext.timely hPoll.now hPoll.aborted h.at_stop (h.phase j b p hb hp)
  | wait t =>
      obtain ⟨hLe, hDone, hReady, hMoments⟩ := hRule
      obtain ⟨hStopping, -⟩ := State.exists_running hSound hn hDone hReady
      have hc : s.cancelled = false := by
        simp only [State.stopping, Bool.or_eq_false_iff] at hStopping
        exact hStopping.1
      refine ⟨?_, ?_, ?_⟩
      · rintro - stopAt rfl
        exact hMoments stopAt (State.mem_moments_of_cancelAt hc)
      · intro hc'
        simp [State.turn, hc] at hc'
      · intro j b p hb hj
        have hp := h.phase j b p hb hj
        cases p with
        | fresh => trivial
        | queued => trivial
        | admitted => trivial
        | running start =>
            exact ⟨Nat.le_trans hp.1 hLe, hMoments _ (State.mem_moments_of_running _ hb hj)⟩
        | ended e => cases e with
          | skipped => trivial
          | dropped start stop => exact hp
          | replied start stop r => exact ⟨hp.1, Nat.le_trans hp.2 hLe⟩
  | stop =>
      have hAt : cancelAt = some s.now := hRule
      exact ⟨fun hc => by simp [State.turn] at hc, fun _ => hAt, h.phase⟩

theorem course (hSound : Sound jobs n s) (hn : 0 < n) (h : Timely jobs cancelAt s)
    {turns : List Turn} (hFollows : Follows .prompt jobs cancelAt s turns) :
    Timely jobs cancelAt (s.course jobs turns) := by
  induction turns generalizing s with
  | nil => exact h
  | cons t ts ih => exact ih (hSound.turn t) (h.turn hSound hn hFollows.1) hFollows.2

end Timely

end FaultBench.Bench

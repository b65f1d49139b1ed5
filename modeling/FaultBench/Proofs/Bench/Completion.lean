import FaultBench.Proofs.Bench.Clock
import Mathlib.Algebra.Order.BigOperators.Group.Finset

/-!
# The scheduler comes to an end

`State.steps` polls the first task that would get on, and lets time pass where there is none. Each
of its steps is one turn or two by `Rule.scheduled`, and does some of the `work` that is left on the
bench: `exists_turns_of_next`. At first the work is less than the number of steps that
`State.ofJobs` takes, so that all tasks have ended when it stops (`ofJobs_course`).
-/

namespace FaultBench.Bench

open Finset

namespace Phase

/-- How many steps are left for a task with the job `b`, if time that passes for its reply counts
for one. -/
def rank (b : Behaviour) (now : Nat) : Phase → Nat
  | .fresh => 4
  | .queued | .admitted => 3
  | .running start => if now < start + b.delayMs then 2 else 1
  | .ended _ => 0

variable {s s' : State} {b : Behaviour} {now : Nat} {p p' : Phase}

theorem rank_running_le (b : Behaviour) (now start : Nat) : (running start).rank b now ≤ 2 := by
  simp only [rank]
  split <;> omega

theorem rank_running_pos (b : Behaviour) (now start : Nat) : 0 < (running start).rank b now := by
  simp only [rank]
  split <;> omega

theorem rank_running_of_lt {start : Nat} (h : now < start + b.delayMs) :
    (running start).rank b now = 2 := if_pos h

theorem rank_running_due (b : Behaviour) (start : Nat) :
    (running start).rank b (start + b.delayMs) = 1 := if_neg (Nat.lt_irrefl _)

theorem Enters.le_rank (h : p.Enters) : 3 ≤ p.rank b now := by
  cases h <;> simp [rank]

theorem rank_anti {later : Nat} (h : now ≤ later) (p : Phase) : p.rank b later ≤ p.rank b now := by
  cases p with
  | running start =>
      simp only [rank]
      split <;> split <;> omega
  | fresh => rfl
  | queued => rfl
  | admitted => rfl
  | ended e => rfl

theorem Ends.rank_pos {e : Ending} (h : p.Ends s b e) : 0 < p.rank b now := by
  cases h with
  | skipped hp => exact Nat.lt_of_lt_of_le (by omega) hp.le_rank
  | atOnce hp => exact Nat.lt_of_lt_of_le (by omega) hp.le_rank
  | dropped => exact rank_running_pos ..
  | replied => exact rank_running_pos ..

theorem Next.rank_le (h : p.Next s s' b p') : p'.rank b now ≤ p.rank b now := by
  cases h with
  | same => exact Nat.le_refl _
  | queued => simp [rank]
  | admitted => exact Nat.le_refl _
  | started hp =>
      have hLe := rank_running_le b now s.now
      have hp : 3 ≤ p.rank b now := hp.le_rank
      omega
  | ended => exact Nat.zero_le _

/-- A task that gets on does some of its work. -/
theorem Next.rank_lt (h : p.Next s s' b p') (hReady : s.isReady b p = true) (hNe : p' ≠ p) :
    p'.rank b now < p.rank b now := by
  cases h with
  | same => exact absurd rfl hNe
  | queued => simp [rank]
  | admitted => simp [State.isReady] at hReady
  | started hp =>
      have hLe := rank_running_le b now s.now
      have hp : 3 ≤ p.rank b now := hp.le_rank
      omega
  | ended he => exact he.rank_pos

end Phase

namespace State

variable {jobs : List Behaviour} {cancelAt : Option Nat} {n : Nat} {s s' : State}

/-- The steps that are left for task `j`. -/
def taskWork (jobs : List Behaviour) (s : State) (j : Nat) : Nat :=
  match jobs[j]?, s.tasks[j]? with
  | some b, some p => p.rank b s.now
  | _, _ => 0

/-- The steps that are left on a bench, if that it is stopped from outside counts for one. -/
def work (jobs : List Behaviour) (s : State) : Nat :=
  ∑ j ∈ range jobs.length, s.taskWork jobs j + if s.cancelled then 0 else 1

theorem taskWork_eq {j : Nat} {b : Behaviour} {p : Phase} (hb : jobs[j]? = some b)
    (hj : s.tasks[j]? = some p) : s.taskWork jobs j = p.rank b s.now := by
  simp [taskWork, hb, hj]

/-- The work gets less if that of no task gets more, and that of one task gets less. -/
theorem work_lt_of_task {i : Nat} {b : Behaviour} {p p' : Phase} (hb : jobs[i]? = some b)
    (hi : s.tasks[i]? = some p) (hi' : s'.tasks[i]? = some p')
    (hLt : p'.rank b s'.now < p.rank b s.now)
    (hLe : ∀ j, s'.taskWork jobs j ≤ s.taskWork jobs j)
    (hCancelled : s.cancelled = true → s'.cancelled = true) : s'.work jobs < s.work jobs := by
  have hSum := sum_lt_sum (fun j _ => hLe j)
    ⟨i, mem_range.mpr (List.getElem?_eq_some_iff.mp hb).1, by
      rwa [taskWork_eq hb hi', taskWork_eq hb hi]⟩
  have hFlag : (if s'.cancelled then 0 else 1) ≤ (if s.cancelled then 0 else 1) := by
    cases hs : s.cancelled with
    | false => simp only [Bool.false_eq_true, if_false]; split <;> omega
    | true => simp [hCancelled hs]
  exact Nat.add_lt_add_of_lt_of_le hSum hFlag

/-- The poll of a task that would get on does some of the work. -/
theorem work_poll_lt (h : Sound jobs n s) {i : Nat} {b : Behaviour} {p : Phase}
    (hb : jobs[i]? = some b) (hi : s.tasks[i]? = some p) (hp : s.isReady b p = true) :
    (s.poll jobs i).work jobs < s.work jobs := by
  have hPoll := s.polled_poll jobs i
  obtain ⟨p', hi', hNext, hNe⟩ := hPoll.phase h hb hi
  have hLt : p'.rank b s.now < p.rank b s.now := hNext.rank_lt hp (hNe hp)
  refine work_lt_of_task hb hi hi' (hPoll.now.symm ▸ hLt) ?_ (hPoll.cancelled.symm ▸ id)
  intro j
  simp only [taskWork]
  split
  next c q hc hq =>
    obtain ⟨r, hr, hStep⟩ := exists_phase_before h (.poll i) hc hq
    rw [hc, hr]
    exact hPoll.now.symm ▸ hStep.rank_le
  next => exact Nat.zero_le _

theorem exists_running_of_due {t : Nat}
    (h : t ∈ (jobs.zip s.tasks).filterMap fun (b, p) => due? b p) :
    ∃ (j : Nat) (b : Behaviour) (start : Nat), jobs[j]? = some b ∧
      s.tasks[j]? = some (.running start) ∧ start + b.delayMs = t := by
  obtain ⟨⟨b, p⟩, hMem, hDue⟩ := List.mem_filterMap.mp h
  obtain ⟨j, hj⟩ := List.mem_iff_getElem?.mp hMem
  obtain ⟨hb, hp⟩ := List.getElem?_zip_eq_some.mp hj
  cases p with
  | running start => exact ⟨j, b, start, hb, hp, Option.some.inj hDue⟩
  | _ => cases hDue

/-- When time passes to the next moment, the bench is stopped or a reply comes to be due. -/
theorem work_advance_lt {t : Nat} (hReady : s.ready? jobs = none)
    (ht : t ∈ s.moments jobs cancelAt) (hNow : s.now ≤ t) :
    (s.advance cancelAt t).work jobs < s.work jobs := by
  have hLe : ∀ j, (s.advance cancelAt t).taskWork jobs j ≤ s.taskWork jobs j := by
    intro j
    simp only [taskWork, advance]
    split
    next c q hc hq => exact Phase.rank_anti hNow q
    next => exact Nat.le_refl _
  rcases List.mem_append.mp ht with hStop | hDue
  · cases hs : s.cancelled with
    | true => simp [hs] at hStop
    | false =>
        have hAt : cancelAt = some t := by simpa [hs] using hStop
        have hSum := sum_le_sum fun j (_ : j ∈ range jobs.length) => hLe j
        have hFlag : (s.advance cancelAt t).cancelled = true := by simp [advance, hAt]
        simp only [work, hs, hFlag, if_true, Bool.false_eq_true, if_false]
        omega
  · obtain ⟨j, b, start, hb, hj, rfl⟩ := exists_running_of_due hDue
    have hNot := not_ready hReady hb hj
    simp only [isReady, Bool.or_eq_false_iff, decide_eq_false_iff_not] at hNot
    refine work_lt_of_task hb hj hj ?_ hLe (by simp +contextual [advance])
    have hBefore := Phase.rank_running_of_lt (b := b) (Nat.lt_of_not_le hNot.2)
    have hAfter := Phase.rank_running_due b start
    exact hBefore ▸ Nat.lt_of_le_of_lt (Nat.le_of_eq hAfter) Nat.one_lt_two

/-- To let time pass to the next moment is a turn, and to be stopped at that moment is another. -/
theorem exists_turns_of_advance {t : Nat} (hTimely : Timely jobs cancelAt s)
    (hDone : s.isDone = false) (hReady : s.ready? jobs = none)
    (hMin : (s.moments jobs cancelAt).min? = some t) :
    s.now ≤ t ∧ ∃ turns, Follows .scheduled jobs cancelAt s turns ∧
      s.course jobs turns = s.advance cancelAt t := by
  obtain ⟨hMem, hLe⟩ := List.min?_eq_some_iff.mp hMin
  have hNow : s.now ≤ t := by
    rcases List.mem_append.mp hMem with hStop | hDue
    · cases hs : s.cancelled with
      | true => simp [hs] at hStop
      | false => exact hTimely.before_stop hs t (by simpa [hs] using hStop)
    · obtain ⟨j, b, start, hb, hj, rfl⟩ := exists_running_of_due hDue
      exact (hTimely.phase j b _ hb hj).2
  have hWait : Rule.scheduled jobs cancelAt s (.wait t) := ⟨hNow, hDone, hReady, hLe⟩
  refine ⟨hNow, ?_⟩
  by_cases hAt : cancelAt = some t
  · exact ⟨[.wait t, .stop], ⟨hWait, hAt, trivial⟩, by simp [turn, advance, hAt]⟩
  · exact ⟨[.wait t], ⟨hWait, trivial⟩, by simp [turn, advance, hAt]⟩

/-- A step of the scheduler is made of turns by its rule, and does some of the work. -/
theorem exists_turns_of_next (hSound : Sound jobs n s) (hTimely : Timely jobs cancelAt s)
    (h : s.next? jobs cancelAt = some s') :
    s'.work jobs < s.work jobs ∧
      ∃ turns, Follows .scheduled jobs cancelAt s turns ∧ s.course jobs turns = s' := by
  unfold next? at h
  split at h
  next i hReady =>
    cases h
    obtain ⟨b, p, hb, hi, hp⟩ := exists_ready hReady
    exact ⟨work_poll_lt hSound hb hi hp, [.poll i], ⟨hReady, trivial⟩, rfl⟩
  next hReady =>
    split at h
    · cases h
    next hDone =>
      obtain ⟨t, hMin, rfl⟩ := Option.map_eq_some_iff.mp h
      have hDone : s.isDone = false := by simpa using hDone
      obtain ⟨hNow, hTurns⟩ := exists_turns_of_advance hTimely hDone hReady hMin
      exact ⟨work_advance_lt hReady (List.min?_eq_some_iff.mp hMin).1 hNow, hTurns⟩

/-- The scheduler stops only where all tasks have ended. -/
theorem isDone_of_next_eq_none (hSound : Sound jobs n s) (hn : 0 < n)
    (h : s.next? jobs cancelAt = none) : s.isDone = true := by
  unfold next? at h
  split at h
  · cases h
  next hReady =>
    cases hDone : s.isDone with
    | true => rfl
    | false =>
        obtain ⟨-, j, b, t, hb, hj, -⟩ := exists_running hSound hn hDone hReady
        have hMem := mem_moments_of_running cancelAt hb hj
        simp only [hDone, Bool.false_eq_true, if_false, Option.map_eq_none_iff,
          List.min?_eq_none_iff] at h
        simp [h] at hMem

theorem isDone_of_work_eq_zero (hSound : Sound jobs n s) (h : s.work jobs = 0) :
    s.isDone = true := by
  have hSum := (Nat.add_eq_zero_iff.mp h).1
  refine isDone_iff.mpr fun j p hj => ?_
  obtain ⟨b, hb⟩ := hSound.exists_job hj
  have hlt := (List.getElem?_eq_some_iff.mp hb).1
  have hZero := sum_eq_zero_iff.mp hSum j (mem_range.mpr hlt)
  rw [taskWork_eq hb hj] at hZero
  cases p with
  | ended e => exact ⟨e, rfl⟩
  | running start => exact absurd hZero (Nat.pos_iff_ne_zero.mp (Phase.rank_running_pos ..))
  | _ => simp [Phase.rank] at hZero

/-- With as many steps as there is work, the scheduler comes to the end of a course by its rule. -/
theorem steps_course (hSound : Sound jobs n s) (hn : 0 < n) (hTimely : Timely jobs cancelAt s)
    {k : Nat} (hWork : s.work jobs ≤ k) :
    ∃ turns, Follows .scheduled jobs cancelAt s turns ∧
      s.course jobs turns = steps jobs cancelAt k s ∧ (s.course jobs turns).isDone = true := by
  induction k generalizing s with
  | zero =>
      exact ⟨[], trivial, rfl, isDone_of_work_eq_zero hSound (Nat.le_zero.mp hWork)⟩
  | succ k ih =>
      unfold steps
      split
      next s' hNext =>
        obtain ⟨hLt, turns, hFollows, rfl⟩ := exists_turns_of_next hSound hTimely hNext
        obtain ⟨rest, hRest, hSteps, hDone⟩ := ih (hSound.course turns)
          (hTimely.course hSound hn hFollows.prompt_of_scheduled) (by omega)
        refine ⟨turns ++ rest, Follows.append_iff.mpr ⟨hFollows, hRest⟩, ?_, ?_⟩
        · rw [course_append, hSteps]
        · rwa [course_append]
      next hNext => exact ⟨[], trivial, rfl, isDone_of_next_eq_none hSound hn hNext⟩

theorem work_initial_le (jobs : List Behaviour) (permits : Nat) :
    (initial permits jobs.length).work jobs ≤ 4 * jobs.length + 1 := by
  have hTask : ∀ j ∈ range jobs.length, (initial permits jobs.length).taskWork jobs j ≤ 4 := by
    intro j hj
    have hlt := mem_range.mp hj
    rw [taskWork_eq (List.getElem?_eq_getElem hlt) (p := .fresh)]
    · exact Nat.le_refl _
    · simp [initial, hlt]
  have hSum := sum_le_card_nsmul _ _ 4 hTask
  rw [card_range, Nat.nsmul_eq_mul, Nat.mul_comm] at hSum
  exact Nat.add_le_add_right hSum 1

/-- The bench of `State.ofJobs` goes through a course by the rule of the scheduler, in which all its
tasks end. -/
theorem ofJobs_course (jobs : List Behaviour) {permits : Nat} (hp : 0 < permits)
    (cancelAt : Option Nat) :
    ∃ turns, Follows .scheduled jobs cancelAt (initial permits jobs.length) turns ∧
      (initial permits jobs.length).course jobs turns = ofJobs jobs permits cancelAt ∧
      (ofJobs jobs permits cancelAt).isDone = true := by
  have hWork := work_initial_le jobs permits
  have hTimely : Timely jobs cancelAt (initial permits jobs.length) := .initial
  have hEnough : (initial permits jobs.length).work jobs ≤ enough jobs :=
    Nat.le_succ_of_le hWork
  obtain ⟨turns, hFollows, hSteps, hDone⟩ := steps_course (.initial jobs permits) hp hTimely hEnough
  rw [hSteps] at hDone
  exact ⟨turns, hFollows, hSteps, hDone⟩

end State

end FaultBench.Bench

import FaultBench.Proofs.Bench.Deeds
import FaultBench.Proofs.Bench.Independence
import Mathlib

/-!
# Every session comes to its end

* Permits: none is lost, and at the end all are free (`Sound.free_eq_of_done`).
* Time: on a virtual clock time passes only while a job is in flight, so the times that the jobs
  were in flight add up to all the time that passed at least (`State.Covered`), and no job is in
  flight for longer than its delay (`State.now_le_sum`).
* Steps: `Rule.brisk` allows the turns on a virtual clock that change something, and all others can
  be left out of a course (`Follows.exists_brisk`). Each of these turns does some of the work that is
  left, or lets time pass, so that there is a bound on their number (`Follows.length_le`).

`comes_to_an_end` puts these together for the bench of a session.
-/

namespace FaultBench.Bench

open Finset

/-! ## Permits at the end -/

/-- What has ended has no permit. -/
theorem Sound.free_eq_of_done {jobs : List Behaviour} {n : Nat} {s : State} (h : Sound jobs n s)
    (hDone : s.isDone = true) : s.free = n := by
  have hNone : s.tasks.countP Phase.holds = 0 := by
    rw [List.countP_eq_zero]
    intro p hp
    obtain ⟨j, hj⟩ := List.mem_iff_getElem?.mp hp
    obtain ⟨e, rfl⟩ := State.isDone_iff.mp hDone j p hj
    simp [Phase.holds]
  have hPermits := h.permits
  omega

/-! ## Time -/

namespace Phase

/-- For how long the job of the task has been in flight. -/
def inFlightFor (now : Nat) : Phase → Nat
  | .running start => now - start
  | .ended (.dropped start stop) => stop - start
  | .ended (.replied start stop _) => stop - start
  | _ => 0

variable {s s' : State} {b : Behaviour} {p p' : Phase}

theorem Enters.inFlightFor_eq {now : Nat} (h : p.Enters) : p.inFlightFor now = 0 := by
  cases h <;> rfl

theorem inFlightFor_mono {now later : Nat} (h : now ≤ later) (p : Phase) :
    p.inFlightFor now ≤ p.inFlightFor later := by
  cases p with
  | running start => exact Nat.sub_le_sub_right h start
  | ended e => cases e <;> exact Nat.le_refl _
  | _ => exact Nat.le_refl _

/-- In a poll no time passes, and what ends keeps the time that it took. -/
theorem Next.inFlightFor_eq (h : Next s s' b p p') (hNow : s'.now = s.now) :
    p'.inFlightFor s'.now = p.inFlightFor s.now := by
  rw [hNow]
  cases h with
  | same => rfl
  | queued => rfl
  | admitted => rfl
  | started hp => rw [hp.inFlightFor_eq, inFlightFor, Nat.sub_self]
  | ended he => cases he with
    | skipped hp =>
        rw [hp.inFlightFor_eq]
        rfl
    | dropped => rfl
    | atOnce hp => rw [hp.inFlightFor_eq, inFlightFor, Nat.sub_self]
    | replied => rfl

/-- What is on time was not in flight for longer than its delay. -/
theorem Timely.inFlightFor_le {cancelAt : Option Nat} (h : p.Timely cancelAt s b) :
    p.inFlightFor s.now ≤ b.delayMs := by
  cases p with
  | running start =>
      have hDue : s.now ≤ start + b.delayMs := h.2
      simp only [inFlightFor]
      omega
  | ended e => cases e with
    | skipped => exact Nat.zero_le _
    | dropped start stop =>
        have hStop : stop ≤ start + b.delayMs := h.2.1
        simp only [inFlightFor]
        omega
    | replied start stop r =>
        have hStop : stop = start + b.delayMs := h.1
        simp only [inFlightFor]
        omega
  | _ => exact Nat.zero_le _

end Phase

namespace State

variable {jobs : List Behaviour} {cancelAt : Option Nat} {n : Nat} {s : State}

/-- For how long the job of task `j` has been in flight. -/
def inFlightOf (s : State) (j : Nat) : Nat := (s.tasks[j]?.map (Phase.inFlightFor s.now)).getD 0

theorem inFlightOf_eq {j : Nat} {p : Phase} (hj : s.tasks[j]? = some p) :
    s.inFlightOf j = p.inFlightFor s.now := by
  simp [inFlightOf, hj]

/-- At all times that have passed a job was in flight. -/
def Covered (jobs : List Behaviour) (s : State) : Prop :=
  s.now ≤ ∑ j ∈ range jobs.length, s.inFlightOf j

theorem Covered.poll (h : Covered jobs s) (hSound : Sound jobs n s) (i : Nat) :
    Covered jobs (s.poll jobs i) := by
  have hNow := (s.polled_poll jobs i).now
  have hSame : ∀ j ∈ range jobs.length, (s.poll jobs i).inFlightOf j = s.inFlightOf j := by
    intro j hj
    have hlt := mem_range.mp hj
    have hb : jobs[j]? = some jobs[j] := List.getElem?_eq_getElem hlt
    obtain ⟨p, hp⟩ := hSound.exists_phase hb
    obtain ⟨p', hp', hNext⟩ := turn_phase hSound (.poll i) hb hp
    have hEq := hNext.inFlightFor_eq hNow
    rw [inFlightOf_eq hp]
    exact (inFlightOf_eq hp').trans hEq
  rw [Covered, hNow, sum_congr rfl hSame]
  exact h

/-- While time passes on a virtual clock, there is a job in flight. -/
theorem Covered.wait (h : Covered jobs s) (hSound : Sound jobs n s) (hn : 0 < n)
    (hTimely : Timely jobs cancelAt s) {t : Nat} (hRule : Rule.prompt jobs cancelAt s (.wait t)) :
    Covered jobs (s.turn jobs (.wait t)) := by
  obtain ⟨hLe, hDone, hReady, -⟩ := hRule
  obtain ⟨-, k, b, start, hb, hk, -⟩ := exists_running hSound hn hDone hReady
  have hStart : start ≤ s.now := (hTimely.phase k b _ hb hk).1
  -- The job in flight covers the time that passes, and that of no other task gets less.
  have hEach : ∀ j ∈ range jobs.length, s.inFlightOf j + (if j = k then t - s.now else 0) ≤
      (s.turn jobs (.wait t)).inFlightOf j := by
    intro j hj
    obtain ⟨p, hp⟩ := hSound.exists_phase (List.getElem?_eq_getElem (mem_range.mp hj))
    have hLater : (s.turn jobs (.wait t)).inFlightOf j = p.inFlightFor t := inFlightOf_eq hp
    rw [hLater, inFlightOf_eq hp]
    by_cases hjk : j = k
    · subst hjk
      cases hp.symm.trans hk
      simp only [Phase.inFlightFor, if_true]
      omega
    · rw [if_neg hjk]
      exact Phase.inFlightFor_mono hLe p
  have hSum := sum_le_sum hEach
  have hMem : k ∈ range jobs.length := mem_range.mpr (List.getElem?_eq_some_iff.mp hb).1
  rw [sum_add_distrib, sum_ite_eq' (range jobs.length) k, if_pos hMem] at hSum
  have hBefore : s.now ≤ _ := h
  have hNow : (s.turn jobs (.wait t)).now = t := rfl
  rw [Covered, hNow]
  omega

theorem Covered.course (h : Covered jobs s) (hSound : Sound jobs n s) (hn : 0 < n)
    (hTimely : Timely jobs cancelAt s) {turns : List Turn}
    (hFollows : Follows .prompt jobs cancelAt s turns) : Covered jobs (s.course jobs turns) := by
  induction turns generalizing s with
  | nil => exact h
  | cons t ts ih =>
      refine ih ?_ (hSound.turn t) (hTimely.turn hSound hn hFollows.1) hFollows.2
      cases t with
      | poll i => exact h.poll hSound i
      | wait t => exact h.wait hSound hn hTimely hFollows.1
      | stop => exact h

theorem sum_range_delayMs (jobs : List Behaviour) :
    ∑ j ∈ range jobs.length, (jobs[j]?.map Behaviour.delayMs).getD 0 =
      (jobs.map Behaviour.delayMs).sum := by
  induction jobs with
  | nil => rfl
  | cons b bs ih =>
      rw [List.length_cons, sum_range_succ', List.map_cons, List.sum_cons, Nat.add_comm, ← ih]
      simp

/-- On a virtual clock time does not run beyond the sum of the delays. -/
theorem now_le_sum (h : Covered jobs s) (hSound : Sound jobs n s)
    (hTimely : Timely jobs cancelAt s) : s.now ≤ (jobs.map Behaviour.delayMs).sum := by
  have hEach : ∀ j ∈ range jobs.length,
      s.inFlightOf j ≤ (jobs[j]?.map Behaviour.delayMs).getD 0 := by
    intro j hj
    have hlt := mem_range.mp hj
    have hb : jobs[j]? = some jobs[j] := List.getElem?_eq_getElem hlt
    obtain ⟨p, hp⟩ := hSound.exists_phase hb
    rw [inFlightOf_eq hp, hb]
    exact (hTimely.phase j _ p hb hp).inFlightFor_le
  calc s.now ≤ ∑ j ∈ range jobs.length, s.inFlightOf j := h
    _ ≤ ∑ j ∈ range jobs.length, (jobs[j]?.map Behaviour.delayMs).getD 0 := sum_le_sum hEach
    _ = (jobs.map Behaviour.delayMs).sum := sum_range_delayMs jobs

end State

/-! ## Turns that change something -/

/-- The task that is polled would get on, time passes, or the bench is stopped for the first time. -/
def State.GetsOn (jobs : List Behaviour) (s : State) : Turn → Prop
  | .poll i => ∃ b p, jobs[i]? = some b ∧ s.tasks[i]? = some p ∧ s.isReady b p = true
  | .wait t => s.now < t
  | .stop => s.cancelled = false

/-- On a virtual clock, only turns are taken that change something. -/
def Rule.brisk : Rule := fun jobs cancelAt s t => prompt jobs cancelAt s t ∧ s.GetsOn jobs t

theorem Phase.Ends.isReady {s : State} {b : Behaviour} {p : Phase} {e : Ending}
    (h : p.Ends s b e) : s.isReady b p = true := by
  cases h with
  | skipped hp => cases hp <;> rfl
  | atOnce hp => cases hp <;> rfl
  | dropped hs => simp [State.isReady, hs]
  | replied hs hd => simp [State.isReady, hd]

section

variable {jobs : List Behaviour} {cancelAt : Option Nat} {n : Nat} {s : State}

/-- A turn by which nothing gets on changes nothing. -/
theorem State.turn_eq_of_not_getsOn (hSound : Sound jobs n s) {t : Turn}
    (hRule : Rule.prompt jobs cancelAt s t) (h : ¬ s.GetsOn jobs t) : s.turn jobs t = s := by
  cases t with
  | wait t =>
      have hNow : t = s.now := Nat.le_antisymm (Nat.le_of_not_lt h) hRule.1
      rw [turn, hNow]
  | stop =>
      have hCancelled : s.cancelled = true := by simpa [GetsOn] using h
      rw [turn, ← hCancelled]
  | poll i =>
      have hNot : ∀ b p, jobs[i]? = some b → s.tasks[i]? = some p → s.isReady b p = false := by
        intro b p hb hi
        cases hReady : s.isReady b p with
        | false => rfl
        | true => exact absurd ⟨b, p, hb, hi, hReady⟩ h
      have hPoll := s.polled_poll jobs i
      change s.poll jobs i = s
      generalize s.poll jobs i = s' at hPoll ⊢
      cases hPoll with
      | idle => rfl
      | queued hi hf =>
          obtain ⟨b, hb⟩ := hSound.exists_job hi
          cases hNot b _ hb hi
      | started peak hb hi hp =>
          have hReady := hNot _ _ hb hi
          cases hp <;> cases hReady
      | ended peak hb hi ht he =>
          have hReady := hNot _ _ hb hi
          rw [he.isReady] at hReady
          cases hReady

/-- The turns that change nothing can be left out. -/
theorem Follows.exists_brisk {turns : List Turn} (h : Follows .prompt jobs cancelAt s turns)
    (hSound : Sound jobs n s) :
    ∃ core, core.Sublist turns ∧ Follows .brisk jobs cancelAt s core ∧
      s.course jobs core = s.course jobs turns := by
  induction turns generalizing s with
  | nil => exact ⟨[], .slnil, trivial, rfl⟩
  | cons t ts ih =>
      by_cases hGetsOn : s.GetsOn jobs t
      · obtain ⟨core, hSub, hCore, hEnd⟩ := ih h.2 (hSound.turn t)
        exact ⟨t :: core, hSub.cons_cons t, ⟨⟨h.1, hGetsOn⟩, hCore⟩, hEnd⟩
      · have hSame := State.turn_eq_of_not_getsOn hSound h.1 hGetsOn
        have hRest := h.2
        rw [hSame] at hRest
        obtain ⟨core, hSub, hCore, hEnd⟩ := ih hRest hSound
        exact ⟨core, hSub.cons t, hCore, by rw [hEnd, State.course_cons, hSame]⟩

/-- A turn by which something gets on does some of the work, or lets time pass. -/
theorem State.work_turn_lt (hSound : Sound jobs n s) {t : Turn}
    (hRule : Rule.brisk jobs cancelAt s t) :
    (s.turn jobs t).work jobs + s.now < s.work jobs + (s.turn jobs t).now := by
  obtain ⟨hPrompt, hGetsOn⟩ := hRule
  cases t with
  | poll i =>
      obtain ⟨b, p, hb, hi, hReady⟩ := hGetsOn
      have hWork := work_poll_lt hSound hb hi hReady
      have hNow : (s.turn jobs (.poll i)).now = s.now := (s.polled_poll jobs i).now
      rw [hNow]
      exact Nat.add_lt_add_right hWork s.now
  | wait t =>
      have hLe : ∀ j ∈ range jobs.length,
          (s.turn jobs (.wait t)).taskWork jobs j ≤ s.taskWork jobs j := by
        intro j _
        simp only [taskWork, turn]
        split
        next c q hc hq => exact Phase.rank_anti hPrompt.1 q
        next => exact Nat.le_refl _
      have hWork : (s.turn jobs (.wait t)).work jobs ≤ s.work jobs :=
        Nat.add_le_add_right (sum_le_sum hLe) _
      exact Nat.add_lt_add_of_le_of_lt hWork hGetsOn
  | stop =>
      have hCancelled : s.cancelled = false := hGetsOn
      have hWork : (s.turn jobs .stop).work jobs + 1 = s.work jobs := by
        simp only [work, turn, hCancelled, if_true, Bool.false_eq_true, if_false]
        rfl
      have hNow : (s.turn jobs .stop).now = s.now := rfl
      omega

/-- The number of turns by which something gets on is bounded by the work that is left, and the time
that passes. -/
theorem Follows.length_le {turns : List Turn} (h : Follows .brisk jobs cancelAt s turns)
    (hSound : Sound jobs n s) :
    turns.length + (s.course jobs turns).work jobs + s.now ≤
      s.work jobs + (s.course jobs turns).now := by
  induction turns generalizing s with
  | nil => simp
  | cons t ts ih =>
      have hTurn := State.work_turn_lt hSound h.1
      have hRest := ih h.2 (hSound.turn t)
      rw [State.course_cons, List.length_cons]
      omega

/-- From anywhere on a course on a virtual clock, the turns that change something lead to the end of
all tasks. -/
theorem exists_brisk_end (hSound : Sound jobs n s) (hn : 0 < n) (hTimely : Timely jobs cancelAt s) :
    ∃ rest, Follows .brisk jobs cancelAt s rest ∧ (s.course jobs rest).isDone = true := by
  obtain ⟨turns, hFollows, -, hDone⟩ := State.steps_course hSound hn hTimely (Nat.le_refl _)
  obtain ⟨core, -, hCore, hEnd⟩ := hFollows.prompt_of_scheduled.exists_brisk hSound
  exact ⟨core, hCore, hEnd ▸ hDone⟩

/-- Where no turn would change anything, all tasks have ended. -/
theorem isDone_of_not_brisk (hSound : Sound jobs n s) (hn : 0 < n) (hTimely : Timely jobs cancelAt s)
    (h : ∀ t, ¬ Rule.brisk jobs cancelAt s t) : s.isDone = true := by
  obtain ⟨rest, hRest, hDone⟩ := exists_brisk_end hSound hn hTimely
  cases rest with
  | nil => exact hDone
  | cons t ts => exact absurd hRest.1 (h t)

end

/-! ## The bench of a session -/

/-- How long the jobs of the programs take one after the other. -/
def Oracle.totalDelay (oracle : Oracle) (ps : List Program) : Nat :=
  (ps.map fun p => (oracle.behaviour p).delayMs).sum

section

variable {oracle : Oracle} {q : Request} {ps : List Program} {selection : List Kind}
  {turns : List Turn} {session : Session}

theorem bench_timely (h : Follows .prompt (oracle.jobs ps) q.cancelAt (q.opening ps) turns) :
    Timely (oracle.jobs ps) q.cancelAt (q.bench oracle ps turns) :=
  .course (opening_sound oracle q ps) q.permits_pos .initial h

theorem bench_now_le (h : Follows .prompt (oracle.jobs ps) q.cancelAt (q.opening ps) turns) :
    (q.bench oracle ps turns).now ≤ oracle.totalDelay ps := by
  have hOpening : State.Covered (oracle.jobs ps) (q.opening ps) := Nat.zero_le _
  have hCovered := hOpening.course (opening_sound oracle q ps) q.permits_pos .initial h
  have hNow := State.now_le_sum hCovered (bench_sound oracle q ps turns) (bench_timely h)
  rwa [Oracle.jobs, List.map_map] at hNow

theorem length_le_of_brisk
    (h : Follows .brisk (oracle.jobs ps) q.cancelAt (q.opening ps) turns) :
    turns.length ≤ 4 * ps.length + 1 + oracle.totalDelay ps := by
  have hNow := bench_now_le (h.mono fun _ _ => And.left)
  have hLength := h.length_le (opening_sound oracle q ps)
  have hWork := State.work_initial_le (oracle.jobs ps) q.permits
  rw [← q.opening_eq, Oracle.jobs, List.length_map] at hWork
  rw [Oracle.jobs] at hLength
  rw [Request.bench, Oracle.jobs] at hNow
  omega

theorem Held.tookMs_le (h : Held .prompt oracle q selection turns session) :
    session.record.tookMs ≤ oracle.totalDelay session.programs := by
  cases h with
  | mk hs hp hr => cases hr with
    | cancelled => exact Nat.zero_le _
    | unavailable => exact Nat.zero_le _
    | ended _ _ hf => exact bench_now_le hf

/-- **Every session comes to its end.** Let the session ask for no more permits than a bench can have.
Whatever turns the tasks take, no permit is lost, and all are free once all tasks have ended; a bench
is never stuck: if none of its tasks would get on and not all have ended, a job is in flight whose
reply is still to come. On a virtual clock time does not run beyond the sum of the delays. There is a
bound on the number of turns that change anything, all others can be left out, and where no turn
changes anything any more all tasks have ended. `run` comes to such an end on every selection whose
programs can be written, unless the session breaks down on the number of its permits. Then it has
begun, and comes to no report. -/
theorem comes_to_an_end (oracle : Oracle) (q : Request) :
    (q.parallelism ≤ maxPermits → ∀ ps : List Program,
      (∀ turns,
        (q.bench oracle ps turns).free + (q.bench oracle ps turns).tasks.countP Phase.holds =
          max 1 q.parallelism ∧
        ((q.bench oracle ps turns).isDone = true →
          (q.bench oracle ps turns).free = max 1 q.parallelism) ∧
        ((q.bench oracle ps turns).isDone = false →
          (q.bench oracle ps turns).ready? (oracle.jobs ps) = none →
          ∃ (j : Nat) (b : Behaviour) (start : Nat), (oracle.jobs ps)[j]? = some b ∧
            (q.bench oracle ps turns).tasks[j]? = some (.running start) ∧
            (q.bench oracle ps turns).now < start + b.delayMs)) ∧
      (∀ turns, Follows .prompt (oracle.jobs ps) q.cancelAt (q.opening ps) turns →
        (q.bench oracle ps turns).now ≤ oracle.totalDelay ps ∧
        ∃ core, core.Sublist turns ∧
          Follows .brisk (oracle.jobs ps) q.cancelAt (q.opening ps) core ∧
          q.bench oracle ps core = q.bench oracle ps turns) ∧
      ∀ turns, Follows .brisk (oracle.jobs ps) q.cancelAt (q.opening ps) turns →
        turns.length ≤ 4 * ps.length + 1 + oracle.totalDelay ps ∧
        ((∀ t, ¬ Rule.brisk (oracle.jobs ps) q.cancelAt (q.bench oracle ps turns) t) →
          (q.bench oracle ps turns).isDone = true)) ∧
    (∀ session, run oracle q = .ok session →
      session.record.tookMs ≤ oracle.totalDelay session.programs ∧
      (q.cancelAt ≠ some 0 → oracle.unavailable = none →
        q.parallelism ≤ maxPermits ∧
        ∃ turns, Follows .prompt (oracle.jobs session.programs) q.cancelAt
            (q.opening session.programs) turns ∧
          session.record = .ofState session.programs (q.bench oracle session.programs turns) ∧
          (q.bench oracle session.programs turns).isDone = true ∧
          (q.bench oracle session.programs turns).free = max 1 q.parallelism)) ∧
    ∀ selection ps, q.catalog.select q.requested = .ok selection →
      selection.mapM Kind.synthesizeDefault = .ok ps →
      (¬ BreaksDown oracle q → ∃ session, run oracle q = .ok session ∧ session.programs = ps) ∧
      (BreaksDown oracle q → run oracle q = .error (.panic tooManyPermits) ∧
        (perform oracle q).run =
          ⟨.error (.panic tooManyPermits), [.emit (.started ps.length q.permits), .probe]⟩) := by
  have hPermits : q.permits = max 1 q.parallelism := Nat.max_comm ..
  have hFree : ∀ ps turns, (q.bench oracle ps turns).isDone = true →
      (q.bench oracle ps turns).free = max 1 q.parallelism := by
    intro ps turns hDone
    rw [(bench_sound oracle q ps turns).free_eq_of_done hDone, hPermits]
  refine ⟨fun _ ps => ⟨?_, ?_, ?_⟩, ?_, ?_⟩
  · intro turns
    have hSound := bench_sound oracle q ps turns
    refine ⟨hPermits ▸ hSound.permits, hFree ps turns, ?_⟩
    intro hDone hReady
    exact (State.exists_running hSound q.permits_pos hDone hReady).2
  · intro turns h
    exact ⟨bench_now_le h, h.exists_brisk (opening_sound oracle q ps)⟩
  · intro turns h
    have hTimely := bench_timely (h.mono fun _ _ => And.left)
    exact ⟨length_le_of_brisk h,
      isDone_of_not_brisk (bench_sound oracle q ps turns) q.permits_pos hTimely⟩
  · intro session hRun
    obtain ⟨selection, turns, h⟩ := held_of_run hRun
    refine ⟨h.tookMs_le, ?_⟩
    intro hc ha
    obtain ⟨hFollows, hDone, hRecord⟩ := h.record_eq hc ha
    refine ⟨Nat.le_of_not_lt fun hMany => ?_, turns, hFollows, hRecord, hDone,
      hFree session.programs turns hDone⟩
    cases hRun.symm.trans (run_of_breaksDown h.select_eq h.mapM_eq ⟨hc, ha, hMany⟩)
  · intro selection ps hs hp
    constructor
    · intro hNot
      obtain ⟨session, turns, hRun, h⟩ := exists_held hs hp hNot
      exact ⟨session, hRun, h.programs_eq hp⟩
    · intro hBreaks
      exact ⟨run_of_breaksDown hs hp hBreaks, run_perform_breaksDown hs hp hBreaks⟩

theorem comes_to_an_end_mixed :
    (∃ session turns core, run .mixed (.builtins 2 (some 15)) = .ok session ∧
      session.record.tookMs ≤ Oracle.mixed.totalDelay session.programs ∧
      ((Request.builtins 2 (some 15)).bench .mixed session.programs turns).isDone = true ∧
      ((Request.builtins 2 (some 15)).bench .mixed session.programs turns).free = 2 ∧
      core.length ≤ 4 * session.programs.length + 1 +
        Oracle.mixed.totalDelay session.programs ∧
      (Request.builtins 2 (some 15)).bench .mixed session.programs core =
        (Request.builtins 2 (some 15)).bench .mixed session.programs turns) ∧
    run .mixed (.builtins (maxPermits + 1) (some 15)) = .error (.panic tooManyPermits) := by
  constructor
  · obtain ⟨hBench, hSession, hRuns⟩ := comes_to_an_end .mixed (.builtins 2 (some 15))
    obtain ⟨hRun, -⟩ := hRuns _ _ rfl mapM_builtins
    obtain ⟨session, hRun, -⟩ := hRun (not_breaksDown .mixed (by decide))
    obtain ⟨hTook, hEnd⟩ := hSession session hRun
    obtain ⟨hFew, turns, hFollows, -, hDone, hFree⟩ := hEnd (by simp [Request.builtins]) rfl
    obtain ⟨-, hPrompt, hBrisk⟩ := hBench hFew session.programs
    obtain ⟨-, core, -, hCore, hSame⟩ := hPrompt turns hFollows
    exact ⟨session, turns, core, hRun, hTook, hDone, hFree, (hBrisk core hCore).1, hSame⟩
  · obtain ⟨-, -, hRuns⟩ := comes_to_an_end .mixed (.builtins (maxPermits + 1) (some 15))
    obtain ⟨-, hMany⟩ := hRuns _ _ rfl mapM_builtins
    exact (hMany ⟨by simp [Request.builtins], rfl, Nat.lt_succ_self maxPermits⟩).1

end

end FaultBench.Bench

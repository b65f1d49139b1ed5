import FaultBench.Proofs.Bench.Polling

/-!
# Permits and the queue

`Sound` ties the permits, the queue and the phases of a bench together: no permit is lost, the queue
holds the tasks that wait for one, each of them once, and a task waits only where no permit is free.
A bench is sound at first (`Sound.initial`), and every turn keeps it so (`Sound.turn`). On a sound
bench not more jobs are in flight than there are permits (`Sound.inFlight_le`).
-/

namespace FaultBench.Bench

/-- The permits are free or in the hands of tasks, and the queue holds the tasks that wait. -/
structure Sound (jobs : List Behaviour) (permits : Nat) (s : State) : Prop where
  length : s.tasks.length = jobs.length
  permits : s.free + s.tasks.countP Phase.holds = permits
  nodup : s.queue.Nodup
  mem_queue : ∀ j, j ∈ s.queue ↔ s.tasks[j]? = some .queued
  free_eq_zero : s.queue ≠ [] → s.free = 0

/-- How many permits a task of the phase has. -/
def Phase.permits (p : Phase) : Nat := if p.holds then 1 else 0

namespace Phase.Takes

variable {p : Phase} {m n : Nat}

theorem ne_queued (h : p.Takes m n) : p ≠ .queued := by
  rintro rfl
  cases h

theorem le (h : p.Takes m n) : n ≤ m := by
  cases h <;> omega

theorem permits (h : p.Takes m n) : n + 1 = m + p.permits := by
  cases h <;> simp [Phase.permits, Phase.holds]

end Phase.Takes

theorem permits_le_countP {tasks : List Phase} {i : Nat} {p : Phase} (hi : tasks[i]? = some p) :
    p.permits ≤ tasks.countP Phase.holds := by
  unfold Phase.permits
  split
  next h => exact List.countP_pos_iff.mpr ⟨p, List.mem_of_getElem? hi, h⟩
  next => exact Nat.zero_le _

theorem countP_holds_set {tasks : List Phase} {i : Nat} {p : Phase} (hi : tasks[i]? = some p)
    (p' : Phase) : (tasks.set i p').countP Phase.holds + p.permits =
      tasks.countP Phase.holds + p'.permits := by
  obtain ⟨hlt, hp⟩ := List.getElem?_eq_some_iff.mp hi
  have hle := permits_le_countP hi
  rw [List.countP_set hlt, hp]
  simp only [Phase.permits] at hle ⊢
  omega

/-- A task that does not wait gets another phase in which it does not wait, and the queue holds the
tasks that wait, as before. -/
theorem mem_queue_setPhase {s : State} {i : Nat} {p p' : Phase}
    (hQueue : ∀ j, j ∈ s.queue ↔ s.tasks[j]? = some .queued) (hi : s.tasks[i]? = some p)
    (hp : p ≠ .queued) (hp' : p' ≠ .queued) (j : Nat) :
    j ∈ (s.setPhase i p').queue ↔ (s.setPhase i p').tasks[j]? = some .queued := by
  simp only [State.setPhase, hQueue j, List.getElem?_set]
  by_cases hij : i = j
  · subst hij
    simp [hi, hp, hp']
  · simp [hij]

namespace Sound

variable {jobs : List Behaviour} {n : Nat} {s : State} {i : Nat}

theorem initial (jobs : List Behaviour) (permits : Nat) :
    Sound jobs permits (.initial permits jobs.length) where
  length := List.length_replicate
  permits := by simp [State.initial, List.countP_replicate, Phase.holds]
  nodup := List.nodup_nil
  mem_queue := by
    intro j
    simp [State.initial, List.getElem?_replicate]
  free_eq_zero := fun h => absurd rfl h

/-- Each task has a job. -/
theorem exists_job (h : Sound jobs n s) {p : Phase} (hi : s.tasks[i]? = some p) :
    ∃ b, jobs[i]? = some b := by
  have hlt : i < jobs.length := h.length ▸ (List.getElem?_eq_some_iff.mp hi).1
  exact ⟨_, List.getElem?_eq_getElem hlt⟩

/-- There is a task for each job. -/
theorem exists_phase (h : Sound jobs n s) {b : Behaviour} (hb : jobs[i]? = some b) :
    ∃ p, s.tasks[i]? = some p := by
  have hlt : i < s.tasks.length := h.length.symm ▸ (List.getElem?_eq_some_iff.mp hb).1
  exact ⟨_, List.getElem?_eq_getElem hlt⟩

/-- A task that does not wait gets another phase in which it does not wait. -/
theorem setPhase {m left : Nat} {p p' : Phase} (h : Sound jobs n s) (hi : s.tasks[i]? = some p)
    (hp : p ≠ .queued) (hp' : p' ≠ .queued) (hLeft : left ≤ s.free)
    (hm : left + p'.permits + n = s.free + p.permits + m) :
    Sound jobs m ({ s with free := left }.setPhase i p') where
  length := (List.length_set ..).trans h.length
  permits := by
    have hCount := countP_holds_set hi p'
    have hPermits := h.permits
    simp only [State.setPhase]
    omega
  nodup := h.nodup
  mem_queue := mem_queue_setPhase (s := { s with free := left }) h.mem_queue hi hp hp'
  free_eq_zero := fun hq => Nat.le_zero.mp (h.free_eq_zero hq ▸ hLeft)

/-- A permit that is given back is free, or goes to the first task in the queue. -/
theorem release (h : Sound jobs n s) : Sound jobs (n + 1) s.release := by
  have hPermits := h.permits
  unfold State.release
  split
  next hq =>
    refine ⟨h.length, ?_, h.nodup, h.mem_queue, fun hne => absurd hq hne⟩
    simp only
    omega
  next j rest hq =>
    have hj : s.tasks[j]? = some .queued := (h.mem_queue j).mp (by simp [hq])
    have hNodup := h.nodup
    rw [hq, List.nodup_cons] at hNodup
    have hCount : _ + 0 = _ + 1 := countP_holds_set hj .admitted
    refine ⟨(List.length_set ..).trans h.length, ?_, hNodup.2, ?_, ?_⟩
    · simp only [State.setPhase]
      omega
    · intro k
      have hk := h.mem_queue k
      rw [hq, List.mem_cons] at hk
      simp only [State.setPhase, List.getElem?_set]
      by_cases hjk : j = k
      · subst hjk
        simp [hNodup.1]
      · simpa [hjk, Ne.symm hjk] using hk
    · intro _
      exact h.free_eq_zero (by simp [hq])

/-- A task goes to the end of the queue, where no permit is free. -/
theorem queued (h : Sound jobs n s) (hi : s.tasks[i]? = some .fresh) (hf : s.free = 0) :
    Sound jobs n ({ s with queue := s.queue ++ [i] }.setPhase i .queued) where
  length := (List.length_set ..).trans h.length
  permits := by
    have hCount : _ + 0 = _ + 0 := countP_holds_set hi .queued
    have hPermits := h.permits
    simp only [State.setPhase]
    omega
  nodup := by
    have hNot : i ∉ s.queue := by
      rw [h.mem_queue i, hi]
      simp
    rw [State.setPhase, List.nodup_append]
    refine ⟨h.nodup, by simp, ?_⟩
    rintro a ha b hb rfl
    exact hNot (List.mem_singleton.mp hb ▸ ha)
  mem_queue := by
    intro j
    obtain ⟨hlt, -⟩ := List.getElem?_eq_some_iff.mp hi
    simp only [State.setPhase, List.mem_append, List.mem_singleton, h.mem_queue j,
      List.getElem?_set]
    by_cases hij : i = j
    · simp [hij, hij ▸ hlt]
    · simp [hij, Ne.symm hij]
  free_eq_zero := fun _ => hf

theorem polled {s' : State} (h : Sound jobs n s) (hPoll : Polled jobs s i s') :
    Sound jobs n s' := by
  cases hPoll with
  | idle => exact h
  | queued hi hf => exact h.queued hi hf
  | @started b p left peak hb hi hp ht hs hd =>
      have hTaken := ht.permits
      have hRunning : (Phase.running s.now).permits = 1 := rfl
      exact setPhase (s := { s with peak := peak }) ⟨h.1, h.2, h.3, h.4, h.5⟩ hi ht.ne_queued
        (by simp) ht.le (by simp only; omega)
  | @ended b p e left peak hb hi ht he =>
      have hTaken := ht.permits
      have hEnded : (Phase.ended e).permits = 0 := rfl
      have hLe := permits_le_countP hi
      have hPermits := h.permits
      obtain ⟨m, rfl⟩ : ∃ m, n = m + 1 := ⟨n - 1, by omega⟩
      refine release (setPhase (s := { s with peak := peak, aborted := s.aborted || e.isFatal })
        ⟨h.1, h.2, h.3, h.4, h.5⟩ hi ht.ne_queued (by simp) ht.le ?_)
      simp only
      omega

/-- No turn breaks what ties permits, queue and phases together. -/
theorem turn (h : Sound jobs n s) (t : Turn) : Sound jobs n (s.turn jobs t) := by
  cases t with
  | poll i => exact h.polled (s.polled_poll jobs i)
  | wait t => exact ⟨h.1, h.2, h.3, h.4, h.5⟩
  | stop => exact ⟨h.1, h.2, h.3, h.4, h.5⟩

theorem course (h : Sound jobs n s) (turns : List Turn) : Sound jobs n (s.course jobs turns) := by
  induction turns generalizing s with
  | nil => exact h
  | cons t ts ih => exact ih (h.turn t)

/-! ## Jobs in flight -/

/-- Each job in flight has a permit. -/
theorem inFlight_le (h : Sound jobs n s) : s.inFlight ≤ n := by
  have hHolds : s.tasks.countP Phase.isRunning ≤ s.tasks.countP Phase.holds := by
    apply List.countP_mono_left
    intro p _ hp
    cases p with
    | running t => rfl
    | _ => cases hp
  have hPermits := h.permits
  simp only [State.inFlight]
  omega

/-- So has a job that is about to start. -/
theorem inFlightWith_le {left : Nat} {p : Phase} (h : Sound jobs n s)
    (hi : s.tasks[i]? = some p) (ht : p.Takes s.free left) : s.inFlightWith i ≤ n := by
  have hTaken := ht.permits
  have hRunning : (Phase.running s.now).permits = 1 := rfl
  have hStarted : Sound jobs n ({ s with free := left }.setPhase i (.running s.now)) :=
    h.setPhase hi ht.ne_queued (by simp) ht.le (by omega)
  exact hStarted.inFlight_le

end Sound

end FaultBench.Bench

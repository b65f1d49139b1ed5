import FaultBench.Proofs.Bench.Endings

/-!
# Programs that are handed over

`State.handsOver` says that a poll hands the program of a task over to the oracle (`poll_eq_start`),
and `State.handed` lists the tasks of which this was done in a course. Whatever turns are taken, no
task is in the list twice, and it holds the tasks whose jobs were started (`Sound.handed`). At no
time, also within a poll, were more jobs in flight than there are permits (`Sound.peak_course_le`).
-/

namespace FaultBench.Bench

namespace State

/-- The request of task `i` for a permit is granted when the task is polled now. -/
def acquires (s : State) (i : Nat) : Bool :=
  match s.tasks[i]? with
  | some .fresh => s.free != 0
  | some .admitted => true
  | _ => false

/-- Task `i` hands its program over to the oracle when it is polled now. -/
def handsOver (s : State) (i : Nat) : Bool := s.acquires i && !s.stopping

/-- The task that hands its program over in the turn. -/
def handedBy (s : State) : Turn → List Nat
  | .poll i => if s.handsOver i then [i] else []
  | _ => []

/-- The tasks that hand their programs over in the given turns, in the order in which they do. -/
def handed (jobs : List Behaviour) : State → List Turn → List Nat
  | _, [] => []
  | s, t :: ts => s.handedBy t ++ handed jobs (s.turn jobs t) ts

variable {jobs : List Behaviour} {n : Nat} {s : State} {i j : Nat}

/-- What hands a program over is that the task starts its job. -/
theorem poll_eq_start {b : Behaviour} (hb : jobs[i]? = some b) (h : s.handsOver i = true) :
    ∃ left, s.poll jobs i = { s with free := left }.start i b := by
  simp only [handsOver, Bool.and_eq_true, Bool.not_eq_true'] at h
  obtain ⟨hAcquires, hStopping⟩ := h
  unfold acquires at hAcquires
  split at hAcquires
  next hi =>
    have hFree : s.free ≠ 0 := by simpa using hAcquires
    have hNot : ({ s with free := s.free - 1 } : State).stopping = false := hStopping
    exact ⟨s.free - 1, by simp [poll, hb, hi, acquire, hFree, enter, hNot]⟩
  next hi => exact ⟨s.free, by simp [poll, hb, hi, enter, hStopping]⟩
  next => cases hAcquires

theorem mem_handedBy {t : Turn} : j ∈ s.handedBy t ↔ t = .poll j ∧ s.handsOver j = true := by
  cases t with
  | wait t => simp [handedBy]
  | stop => simp [handedBy]
  | poll i =>
      by_cases hij : i = j
      · subst hij
        cases hHands : s.handsOver i <;> simp [handedBy, hHands]
      · have hji : j ≠ i := Ne.symm hij
        cases hHands : s.handsOver i <;> simp [handedBy, hHands, hij, hji]

theorem hasBegun_of_phase {p : Phase} (hj : s.tasks[j]? = some p) : s.hasBegun j = p.begun := by
  rw [hasBegun, hj, Option.any_some]

theorem acquires_of_handsOver (h : s.handsOver i = true) : s.acquires i = true := by
  simp only [handsOver, Bool.and_eq_true] at h
  exact h.1

/-- The job of a task whose request is granted was not started before. -/
theorem hasBegun_eq_false_of_acquires (h : s.acquires i = true) : s.hasBegun i = false := by
  unfold acquires at h
  split at h
  next hi => exact hasBegun_of_phase hi
  next hi => exact hasBegun_of_phase hi
  next => cases h

theorem acquires_of_takes {p : Phase} {left : Nat} (hi : s.tasks[i]? = some p) (hp : p.Enters)
    (ht : p.Takes s.free left) : s.acquires i = true := by
  unfold acquires
  rw [hi]
  cases hp with
  | admitted => rfl
  | fresh =>
      obtain ⟨m, hm⟩ : ∃ m, s.free = m + 1 := by
        generalize s.free = m at ht
        cases ht
        exact ⟨_, rfl⟩
      simp [hm]

end State

namespace Polled

variable {jobs : List Behaviour} {n : Nat} {s s' : State} {i j : Nat}

/-- The job of the task that is polled is started exactly if its program is handed over. -/
theorem hasBegun_self (hPoll : Polled jobs s i s') (h : Sound jobs n s) :
    s'.hasBegun i = (s.hasBegun i || s.handsOver i) := by
  cases hPoll with
  | idle hIdle =>
      have hNot : s.handsOver i = false := by
        unfold State.handsOver State.acquires
        split
        next hi =>
          obtain ⟨b, hb⟩ := h.exists_job hi
          cases hIdle b _ hb hi
        next hi =>
          obtain ⟨b, hb⟩ := h.exists_job hi
          cases hIdle b _ hb hi
        next => rfl
      rw [hNot, Bool.or_false]
  | queued hi hf =>
      obtain ⟨hlt, -⟩ := List.getElem?_eq_some_iff.mp hi
      have hAfter : ({ s with queue := s.queue ++ [i] }.setPhase i .queued).tasks[i]? =
          some .queued := by simp [State.setPhase, hlt]
      rw [State.hasBegun_of_phase hAfter, State.hasBegun_of_phase hi]
      simp [Phase.begun, State.handsOver, State.acquires, hi, hf]
  | @started b p left peak hb hi hp ht hs hd =>
      obtain ⟨hlt, -⟩ := List.getElem?_eq_some_iff.mp hi
      have hAfter : ({ s with free := left, peak := peak }.setPhase i
          (.running s.now)).tasks[i]? = some (.running s.now) := by simp [State.setPhase, hlt]
      rw [State.hasBegun_of_phase hAfter]
      simp [Phase.begun, State.handsOver, State.acquires_of_takes hi hp ht, hs]
  | @ended b p e left peak hb hi ht he =>
      have hAfter := State.finish_phase
        (s := { s with free := left, peak := peak, aborted := s.aborted || e.isFatal }) (e := e)
        (fun k => (h.mem_queue k).mp) hi ht.ne_queued
      rw [State.hasBegun_of_phase hAfter, State.hasBegun_of_phase hi]
      cases he with
      | skipped hp hs =>
          have hBefore : p.begun = false := by cases hp <;> rfl
          have hHands : s.handsOver i = false := by simp [State.handsOver, hs]
          rw [hBefore, hHands]
          rfl
      | dropped hs => simp [Phase.begun]
      | atOnce hp hs => simp [Phase.begun, State.handsOver, State.acquires_of_takes hi hp ht, hs]
      | replied hs => simp [Phase.begun]

/-- Whether the job of another task was started stays as it is. -/
theorem hasBegun_of_ne (hPoll : Polled jobs s i s') (h : Sound jobs n s) (hij : i ≠ j) :
    s'.hasBegun j = s.hasBegun j := by
  cases hj : s.tasks[j]? with
  | some p =>
      rcases hPoll.phase_of_ne h hij hj with hSame | ⟨rfl, hAdmitted⟩
      · rw [State.hasBegun_of_phase hSame, State.hasBegun_of_phase hj]
      · rw [State.hasBegun_of_phase hAdmitted, State.hasBegun_of_phase hj]
        rfl
  | none =>
      have hAfter : s'.tasks[j]? = none := by
        rw [List.getElem?_eq_none_iff] at hj ⊢
        rw [(h.polled hPoll).length, ← h.length]
        exact hj
      rw [State.hasBegun, State.hasBegun, hj, hAfter]

end Polled

namespace State

variable {jobs : List Behaviour} {n : Nat} {s : State} {j : Nat}

/-- A job has been started after a turn if it had been before, or its program is handed over in the
turn. -/
theorem hasBegun_turn (h : Sound jobs n s) (t : Turn) :
    (s.turn jobs t).hasBegun j = true ↔ s.hasBegun j = true ∨ j ∈ s.handedBy t := by
  rw [mem_handedBy]
  cases t with
  | wait t => simp [turn, hasBegun]
  | stop => simp [turn, hasBegun]
  | poll i =>
      have hPoll := s.polled_poll jobs i
      by_cases hij : i = j
      · subst hij
        simp [turn, hPoll.hasBegun_self h]
      · simp [turn, hPoll.hasBegun_of_ne h hij, hij]

end State

/-- What holds of the tasks that hand their programs over in a course: none had done so before, none
does so twice, and afterwards these are the tasks whose jobs were started. -/
structure HandedOnce (before after : State) (handed : List Nat) : Prop where
  nodup : handed.Nodup
  notBegun : ∀ j ∈ handed, before.hasBegun j = false
  hasBegun : ∀ j, after.hasBegun j = true ↔ before.hasBegun j = true ∨ j ∈ handed

/-- **Each program is handed over once at most**, whatever turns are taken. -/
theorem Sound.handed {jobs : List Behaviour} {n : Nat} {s : State} (h : Sound jobs n s)
    (turns : List Turn) : HandedOnce s (s.course jobs turns) (s.handed jobs turns) := by
  induction turns generalizing s with
  | nil => exact ⟨List.nodup_nil, by simp [State.handed], by simp [State.handed]⟩
  | cons t ts ih =>
      have hRest := ih (h.turn t)
      have hTurn : ∀ j, _ := fun j => State.hasBegun_turn (j := j) h t
      have hLater : ∀ j ∈ s.handedBy t, j ∉ (s.turn jobs t).handed jobs ts := by
        intro j hj hLater
        have hBegun := (hTurn j).mpr (.inr hj)
        simp [hRest.notBegun j hLater] at hBegun
      refine ⟨?_, ?_, ?_⟩
      · rw [State.handed, List.nodup_append]
        refine ⟨?_, hRest.nodup, ?_⟩
        · cases t with
          | poll i => simp only [State.handedBy]; split <;> simp
          | wait t => simp [State.handedBy]
          | stop => simp [State.handedBy]
        · rintro j hj k hk rfl
          exact hLater j hj hk
      · intro j hj
        rcases List.mem_append.mp hj with hNow | hLater
        · have hHands := (State.mem_handedBy.mp hNow).2
          exact State.hasBegun_eq_false_of_acquires (State.acquires_of_handsOver hHands)
        · have hNot := hRest.notBegun j hLater
          cases hBegun : s.hasBegun j with
          | false => rfl
          | true => simp [(hTurn j).mpr (.inl hBegun)] at hNot
      · intro j
        rw [State.course_cons, hRest.hasBegun j, hTurn j, State.handed, List.mem_append, or_assoc]

/-! ## Jobs in flight at a time -/

@[simp] theorem State.peak_finish (s : State) (i : Nat) (e : Ending) :
    (s.finish i e).peak = s.peak := by
  unfold finish release setPhase
  split <;> rfl

theorem Polled.peak_le {jobs : List Behaviour} {n : Nat} {s s' : State} {i : Nat}
    (hPoll : Polled jobs s i s') (h : Sound jobs n s) (hPeak : s.peak ≤ n) : s'.peak ≤ n := by
  cases hPoll with
  | idle => exact hPeak
  | queued hi hf => exact hPeak
  | @started b p left peak hb hi hp ht hs hd hLe =>
      have hWith := h.inFlightWith_le hi ht
      simp only [State.setPhase]
      omega
  | @ended b p e left peak hb hi ht he hLe =>
      have hWith := h.inFlightWith_le hi ht
      simp only [State.peak_finish]
      omega

/-- At no time were more jobs in flight than there are permits, also within a poll. -/
theorem Sound.peak_course_le {jobs : List Behaviour} {n : Nat} {s : State} (h : Sound jobs n s)
    (hPeak : s.peak ≤ n) (turns : List Turn) : (s.course jobs turns).peak ≤ n := by
  induction turns generalizing s with
  | nil => exact hPeak
  | cons t ts ih =>
      refine ih (h.turn t) ?_
      cases t with
      | poll i => exact (s.polled_poll jobs i).peak_le h hPeak
      | wait t => exact hPeak
      | stop => exact hPeak

end FaultBench.Bench

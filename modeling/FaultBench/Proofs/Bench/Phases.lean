import FaultBench.Proofs.Bench.Permits

/-!
# How phases change

`Phase.Next` lists all changes of the phase of one task in one turn. On a sound bench the phase of
each task changes so in each turn (`turn_phase`), only the task that is polled starts its job or
ends (`Polled.phase_of_ne`), and only a fatal reply sets the flag that aborts the bench
(`aborted_turn`).

The other statements are on what one turn keeps, and so on what a course keeps.
-/

namespace FaultBench.Bench

/-- How the phase of a task with the job `b` can change in a turn that leads from `s` to `s'`. -/
inductive Phase.Next (s s' : State) (b : Behaviour) : Phase → Phase → Prop
  | same {p : Phase} : Next s s' b p p
  | queued : Next s s' b .fresh .queued
  | admitted : Next s s' b .queued .admitted
  | started {p : Phase} (hp : p.Enters) (hs : s.stopping = false) (hd : 0 < b.delayMs) :
      Next s s' b p (.running s.now)
  | ended {p : Phase} {e : Ending} (he : p.Ends s b e)
      (ha : s'.aborted = (s.aborted || e.isFatal)) : Next s s' b p (.ended e)

namespace State

variable {jobs : List Behaviour} {n : Nat} {s s' : State} {i j : Nat} {b : Behaviour}
  {p p' : Phase} {e : Ending}

theorem getElem?_setPhase (s : State) (i j : Nat) (p : Phase) (hi : i < s.tasks.length) :
    (s.setPhase i p).tasks[j]? = if i = j then some p else s.tasks[j]? := by
  simp [setPhase, List.getElem?_set, hi]

theorem getElem?_release (s : State) (j : Nat) :
    s.release.tasks[j]? = if s.queue.head? = some j ∧ j < s.tasks.length then some .admitted
      else s.tasks[j]? := by
  unfold release
  split
  next hq => simp [hq]
  next k rest hq =>
    simp only [setPhase, List.getElem?_set, hq, List.head?_cons, Option.some.injEq]
    by_cases hkj : k = j
    · by_cases hlt : j < s.tasks.length <;> simp [hkj, hlt]
    · simp [hkj]

@[simp] theorem now_finish (s : State) (i : Nat) (e : Ending) : (s.finish i e).now = s.now := by
  unfold finish release setPhase
  split <;> rfl

@[simp] theorem cancelled_finish (s : State) (i : Nat) (e : Ending) :
    (s.finish i e).cancelled = s.cancelled := by
  unfold finish release setPhase
  split <;> rfl

@[simp] theorem aborted_finish (s : State) (i : Nat) (e : Ending) :
    (s.finish i e).aborted = s.aborted := by
  unfold finish release setPhase
  split <;> rfl

/-- The task that ends does not wait in the queue, so its permit goes to another one. -/
theorem finish_phase (hQueue : ∀ k ∈ s.queue, s.tasks[k]? = some .queued)
    (hi : s.tasks[i]? = some p) (hp : p ≠ .queued) :
    (s.finish i e).tasks[i]? = some (.ended e) := by
  obtain ⟨hlt, -⟩ := List.getElem?_eq_some_iff.mp hi
  have hNot : s.queue.head? ≠ some i := by
    intro hHead
    exact hp (Option.some.inj (hi.symm.trans (hQueue i (List.mem_of_mem_head? hHead))))
  have hSet : (s.setPhase i (.ended e)).queue = s.queue := rfl
  rw [finish, getElem?_release, hSet, if_neg fun hHead => hNot hHead.1,
    getElem?_setPhase _ _ _ _ hlt, if_pos rfl]

theorem finish_phase_of_ne (hQueue : ∀ k ∈ s.queue, s.tasks[k]? = some .queued) (hij : i ≠ j)
    (hj : s.tasks[j]? = some p) :
    (s.finish i e).tasks[j]? = some p ∨
      p = .queued ∧ (s.finish i e).tasks[j]? = some .admitted := by
  have hSame : (s.setPhase i (.ended e)).tasks[j]? = some p := by
    simp [setPhase, List.getElem?_set_ne hij, hj]
  have hSet : (s.setPhase i (.ended e)).queue = s.queue := rfl
  rw [finish, getElem?_release, hSet]
  split
  next hHead =>
    have hQueued := hQueue j (List.mem_of_mem_head? hHead.1)
    exact .inr ⟨Option.some.inj (hj.symm.trans hQueued), rfl⟩
  next => exact .inl hSame

end State

/-! ## The task that is polled, and the others -/

namespace Polled

variable {jobs : List Behaviour} {n : Nat} {s s' : State} {i j : Nat} {b : Behaviour} {p : Phase}

/-- Another task than the one that is polled gets a permit at most. -/
theorem phase_of_ne (hPoll : Polled jobs s i s') (h : Sound jobs n s) (hij : i ≠ j)
    (hj : s.tasks[j]? = some p) :
    s'.tasks[j]? = some p ∨ p = .queued ∧ s'.tasks[j]? = some .admitted := by
  cases hPoll with
  | idle => exact .inl hj
  | queued hi hf => exact .inl (by simp [State.setPhase, List.getElem?_set_ne hij, hj])
  | started peak hb hi hp ht hs hd =>
      exact .inl (by simp [State.setPhase, List.getElem?_set_ne hij, hj])
  | ended peak hb hi ht he => exact State.finish_phase_of_ne (fun k => (h.mem_queue k).mp) hij hj

/-- The task that is polled goes on, if it would get on at all. -/
theorem phase (hPoll : Polled jobs s i s') (h : Sound jobs n s) (hb : jobs[i]? = some b)
    (hi : s.tasks[i]? = some p) :
    ∃ p', s'.tasks[i]? = some p' ∧ p.Next s s' b p' ∧ (s.isReady b p = true → p' ≠ p) := by
  obtain ⟨hlt, -⟩ := List.getElem?_eq_some_iff.mp hi
  cases hPoll with
  | idle hIdle => exact ⟨p, hi, .same, fun hReady => absurd hReady (by simp [hIdle b p hb hi])⟩
  | queued hFresh hf =>
      cases hi.symm.trans hFresh
      exact ⟨.queued, by simp [State.setPhase, hlt], .queued, fun _ => by simp⟩
  | @started b' q left peak hb' hq hEnters ht hs hd =>
      cases hb.symm.trans hb'
      cases hi.symm.trans hq
      refine ⟨.running s.now, by simp [State.setPhase, hlt], .started hEnters hs hd, fun _ => ?_⟩
      cases hEnters <;> simp
  | @ended b' q e left peak hb' hq ht he =>
      cases hb.symm.trans hb'
      cases hi.symm.trans hq
      refine ⟨.ended e, State.finish_phase (fun k => (h.mem_queue k).mp) hi ht.ne_queued,
        .ended he (by simp), fun _ => ?_⟩
      rintro rfl
      cases ht

theorem now (hPoll : Polled jobs s i s') : s'.now = s.now := by
  cases hPoll <;> simp [State.setPhase]

theorem cancelled (hPoll : Polled jobs s i s') : s'.cancelled = s.cancelled := by
  cases hPoll <;> simp [State.setPhase]

theorem aborted (hPoll : Polled jobs s i s') (ha : s.aborted = true) : s'.aborted = true := by
  cases hPoll <;> simp [State.setPhase, ha]

/-- The bench is aborted in the poll of a task that ends with a fatal reply. -/
theorem ends_of_aborted (hPoll : Polled jobs s i s') (h : Sound jobs n s)
    (hs : s.aborted = false) (ha : s'.aborted = true) :
    ∃ b p e, jobs[i]? = some b ∧ s.tasks[i]? = some p ∧ p.Ends s b e ∧ e.isFatal = true ∧
      s'.tasks[i]? = some (.ended e) := by
  cases hPoll with
  | idle => simp [hs] at ha
  | queued hi hf => simp [State.setPhase, hs] at ha
  | started peak hb hi hp ht hq hd => simp [State.setPhase, hs] at ha
  | @ended b p e left peak hb hi ht he =>
      have hFatal : e.isFatal = true := by simpa [hs] using ha
      exact ⟨b, p, e, hb, hi, he, hFatal,
        State.finish_phase (fun k => (h.mem_queue k).mp) hi ht.ne_queued⟩

end Polled

namespace State

variable {jobs : List Behaviour} {n : Nat} {s : State} {j : Nat} {b : Behaviour} {p p' : Phase}

/-- In a turn, the phase of a task changes by `Phase.Next`. -/
theorem turn_phase (h : Sound jobs n s) (t : Turn) (hb : jobs[j]? = some b)
    (hj : s.tasks[j]? = some p) :
    ∃ p', (s.turn jobs t).tasks[j]? = some p' ∧ p.Next s (s.turn jobs t) b p' := by
  cases t with
  | wait t => exact ⟨p, hj, .same⟩
  | stop => exact ⟨p, hj, .same⟩
  | poll i =>
      by_cases hij : i = j
      · subst hij
        obtain ⟨p', hp', hNext, -⟩ := (s.polled_poll jobs i).phase h hb hj
        exact ⟨p', hp', hNext⟩
      · rcases (s.polled_poll jobs i).phase_of_ne h hij hj with hSame | ⟨rfl, hAdmitted⟩
        · exact ⟨p, hSame, .same⟩
        · exact ⟨.admitted, hAdmitted, .admitted⟩

/-- The phase that a task has after a turn comes from the one that it had before. -/
theorem exists_phase_before (h : Sound jobs n s) (t : Turn) (hb : jobs[j]? = some b)
    (hj : (s.turn jobs t).tasks[j]? = some p') :
    ∃ p, s.tasks[j]? = some p ∧ p.Next s (s.turn jobs t) b p' := by
  obtain ⟨p, hp⟩ := h.exists_phase hb
  obtain ⟨p'', hp'', hNext⟩ := turn_phase h t hb hp
  cases hj.symm.trans hp''
  exact ⟨p, hp, hNext⟩

/-! ## The flags -/

theorem turn_aborted (t : Turn) (ha : s.aborted = true) : (s.turn jobs t).aborted = true := by
  cases t with
  | wait t => exact ha
  | stop => exact ha
  | poll i => exact (s.polled_poll jobs i).aborted ha

theorem turn_cancelled (t : Turn) :
    (s.turn jobs t).cancelled = true ↔ s.cancelled = true ∨ t = .stop := by
  cases t with
  | wait t => simp [turn]
  | stop => simp [turn]
  | poll i => simp [turn, (s.polled_poll jobs i).cancelled]

/-- A bench that is being stopped goes on being stopped. -/
theorem turn_stopping (t : Turn) (hs : s.stopping = true) : (s.turn jobs t).stopping = true := by
  simp only [stopping, Bool.or_eq_true] at hs ⊢
  exact hs.imp (fun hc => (turn_cancelled t).mpr (.inl hc)) (turn_aborted t)

/-- The bench is aborted in the poll of a task that ends with a fatal reply, in no other turn. -/
theorem aborted_turn (h : Sound jobs n s) {t : Turn} (hs : s.aborted = false)
    (ha : (s.turn jobs t).aborted = true) :
    ∃ i b p e, t = .poll i ∧ jobs[i]? = some b ∧ s.tasks[i]? = some p ∧ p.Ends s b e ∧
      e.isFatal = true ∧ (s.turn jobs t).tasks[i]? = some (.ended e) := by
  cases t with
  | wait t => simp [turn, hs] at ha
  | stop => simp [turn, hs] at ha
  | poll i =>
      obtain ⟨b, p, e, hEnds⟩ := (s.polled_poll jobs i).ends_of_aborted h hs ha
      exact ⟨i, b, p, e, rfl, hEnds⟩

end State

end FaultBench.Bench

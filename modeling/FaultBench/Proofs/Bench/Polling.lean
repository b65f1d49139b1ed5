import FaultBench.Proofs.Bench.Turns

/-!
# What a poll does

`Polled` lists all that a poll can do to a bench, and `polled_poll` says that it does nothing else.
`Polled` is all that later proofs know of `State.poll`.
-/

namespace FaultBench.Bench

/-- The job of the task replied, and the reply is fatal. -/
def Ending.isFatal : Ending → Bool
  | .replied _ _ r => r.isFatal
  | _ => false

namespace Phase

/-- The job of the task was started, now or before. -/
def begun : Phase → Bool
  | .running _ | .ended (.dropped ..) | .ended (.replied ..) => true
  | _ => false

/-- A task of the phase comes to its job next. -/
inductive Enters : Phase → Prop
  | fresh : Enters .fresh
  | admitted : Enters .admitted

/-- Where `free` permits are free, a task of the phase can have one, and `left` are free then. -/
inductive Takes : Phase → (free left : Nat) → Prop
  | fresh {n : Nat} : Takes .fresh (n + 1) n
  | admitted {n : Nat} : Takes .admitted n n
  | running {t n : Nat} : Takes (.running t) n n

/-- How a task of the phase can end when it is polled in the state. -/
inductive Ends (s : State) (b : Behaviour) : Phase → Ending → Prop
  | skipped {p : Phase} (hp : p.Enters) (hs : s.stopping = true) : Ends s b p .skipped
  | dropped {t : Nat} (hs : s.stopping = true) : Ends s b (.running t) (.dropped t s.now)
  | atOnce {p : Phase} (hp : p.Enters) (hs : s.stopping = false) (hd : b.delayMs = 0) :
      Ends s b p (.replied s.now s.now b.reply)
  | replied {t : Nat} (hs : s.stopping = false) (hd : t + b.delayMs ≤ s.now) :
      Ends s b (.running t) (.replied t s.now b.reply)

end Phase

/-- How many jobs are in flight once task `i`, which has got a permit, starts its job. -/
def State.inFlightWith (s : State) (i : Nat) : Nat := (s.setPhase i (.running s.now)).inFlight

/-- What can become of a bench when task `i` is polled. -/
inductive Polled (jobs : List Behaviour) (s : State) (i : Nat) : State → Prop
  /-- The task would not get on. -/
  | idle (h : ∀ b p, jobs[i]? = some b → s.tasks[i]? = some p → s.isReady b p = false) :
      Polled jobs s i s
  | queued (hi : s.tasks[i]? = some .fresh) (hf : s.free = 0) :
      Polled jobs s i ({ s with queue := s.queue ++ [i] }.setPhase i .queued)
  | started {b : Behaviour} {p : Phase} {left : Nat} (peak : Nat) (hb : jobs[i]? = some b)
      (hi : s.tasks[i]? = some p) (hp : p.Enters) (ht : p.Takes s.free left)
      (hs : s.stopping = false) (hd : 0 < b.delayMs) (hPeak : peak ≤ max s.peak (s.inFlightWith i)) :
      Polled jobs s i ({ s with free := left, peak := peak }.setPhase i (.running s.now))
  | ended {b : Behaviour} {p : Phase} {e : Ending} {left : Nat} (peak : Nat)
      (hb : jobs[i]? = some b) (hi : s.tasks[i]? = some p) (ht : p.Takes s.free left)
      (he : p.Ends s b e) (hPeak : peak ≤ max s.peak (s.inFlightWith i)) :
      Polled jobs s i
        ({ s with free := left, peak := peak, aborted := s.aborted || e.isFatal }.finish i e)

namespace State

variable {jobs : List Behaviour} {s : State} {i : Nat} {b : Behaviour}

/-- Of a task that replies at once, the phase in which its job is in flight is written over. -/
theorem receive_setPhase (s : State) (i t peak : Nat) (p : Phase) (r : Reply) :
    { s.setPhase i p with peak := peak }.receive i t r =
      { s with peak := peak, aborted := s.aborted || r.isFatal }.finish i (.replied t s.now r) := by
  simp [receive, finish, setPhase]

theorem polled_enter {p : Phase} {left : Nat} (hb : jobs[i]? = some b)
    (hi : s.tasks[i]? = some p) (hp : p.Enters) (ht : p.Takes s.free left) :
    Polled jobs s i ({ s with free := left }.enter i b) := by
  unfold enter
  split
  next hs =>
    have hEnd := Polled.ended s.peak hb hi ht (.skipped hp hs) (Nat.le_max_left ..)
    simpa only [Ending.isFatal, Bool.or_false] using hEnd
  next hs =>
    have hs : s.stopping = false := by simpa [stopping] using hs
    unfold start
    split
    next hd =>
      simp only [receive_setPhase]
      exact .ended _ hb hi ht (.atOnce hp hs hd) (Nat.le_refl _)
    next hd => exact .started _ hb hi hp ht hs (by omega) (Nat.le_refl _)

theorem polled_attend {t : Nat} (hb : jobs[i]? = some b)
    (hi : s.tasks[i]? = some (.running t)) : Polled jobs s i (s.attend i t b) := by
  unfold attend
  split
  next hs =>
    have hEnd := Polled.ended s.peak hb hi .running (.dropped hs) (Nat.le_max_left ..)
    simpa only [Ending.isFatal, Bool.or_false] using hEnd
  next hs =>
    have hs : s.stopping = false := by simpa using hs
    split
    next hd => exact .ended _ hb hi .running (.replied hs hd) (Nat.le_max_left ..)
    next hd =>
      refine .idle fun b' p hb' hp => ?_
      cases hb.symm.trans hb'
      cases hi.symm.trans hp
      simp [isReady, hs, hd]

theorem polled_poll (jobs : List Behaviour) (s : State) (i : Nat) :
    Polled jobs s i (s.poll jobs i) := by
  unfold poll
  split
  next b hb hi =>
    unfold acquire
    split
    next hf => exact .queued hi hf
    next hf => exact polled_enter hb hi .fresh (by
      obtain ⟨n, hn⟩ := Nat.exists_eq_succ_of_ne_zero hf
      rw [hn]
      exact .fresh)
  next b hb hi => exact polled_enter hb hi .admitted .admitted
  next b t hb hi => exact polled_attend hb hi
  next hFresh hAdmitted hRunning =>
    refine .idle fun b p hb hp => ?_
    cases p with
    | fresh => exact absurd hp (hFresh b hb)
    | admitted => exact absurd hp (hAdmitted b hb)
    | running t => exact absurd hp (hRunning b t hb)
    | queued => rfl
    | ended e => rfl

end State

end FaultBench.Bench

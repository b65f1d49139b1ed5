import FaultBench.Proofs.Bench.Deeds
import FaultBench.Proofs.Bench.Handing
import FaultBench.Proofs.Bench.Independence

/-!
# The order in which jobs start

The semaphore serves first who asks first. If the tasks are polled for the first time in their order
(`Rule.ordered`), they are given their permits in their order, but that alone does not have their jobs
start so: of two tasks that were given a permit the later one may be polled first
(`started_out_of_order`). `Rule.inTurn` is the rule by which the earlier one is. Under it programs are
handed over one after the other from the first one on (`Follows.handed_eq`), and the jobs that were
started are the first ones of the selection (`started_in_order`). What `run` does is a course by this
rule.

Both rules keep the tasks in line (`InLine`): none has come further than one before it, up to the
stage that the rule is good for.
-/

namespace FaultBench.Bench

/-! ## First come, first served -/

instance (o : Option Phase) : Decidable (o = some .fresh) :=
  match o with
  | some .fresh => isTrue rfl
  | none | some .queued | some .admitted | some (.running _) | some (.ended _) => isFalse nofun

/-- Tasks are polled for the first time in their order. Otherwise they are polled in any order, and
time passes at any moment. -/
def Rule.ordered : Rule
  | _, _, s, .poll i => s.tasks[i]? = some .fresh → ∀ j < i, s.tasks[j]? ≠ some .fresh
  | jobs, cancelAt, s, t => free jobs cancelAt s t

/-- No task passes the semaphore before one in front of it that was given a permit. The semaphore does
not see to that: it wakes the tasks in the order in which it gives out the permits (`State.release`),
but who polls them may take the later one first. A run queue that is served in order does see to
it. -/
def State.InTurn (s : State) : Turn → Prop
  | .poll i => s.acquires i = true → ∀ j < i, s.tasks[j]? ≠ some .admitted
  | _ => True

/-- Tasks are polled for the first time in their order, and those that were given a permit are polled
in the order in which they were. -/
def Rule.inTurn : Rule := fun jobs cancelAt s t => ordered jobs cancelAt s t ∧ s.InTurn t

/-- How far a task has come. One that was skipped has passed the semaphore, but its job was not
started. -/
def Phase.stage : Phase → Nat
  | .fresh => 0
  | .queued => 1
  | .admitted => 2
  | .ended .skipped => 3
  | .running _ | .ended (.dropped ..) | .ended (.replied ..) => 4

theorem Phase.three_le_stage_ended (e : Ending) : 3 ≤ (ended e).stage := by
  cases e <;> simp [stage]

theorem Phase.stage_le_four (p : Phase) : p.stage ≤ 4 := by
  cases p with
  | ended e => cases e <;> simp [stage]
  | _ => simp [stage]

theorem Phase.begun_iff_stage {p : Phase} : p.begun = true ↔ p.stage = 4 := by
  cases p with
  | ended e => cases e <;> simp [begun, stage]
  | _ => simp [begun, stage]

theorem Phase.Enters.stage_le {p : Phase} (hp : p.Enters) : p.stage ≤ 2 := by
  cases hp <;> simp [stage]

/-- The task was given a permit. -/
def Phase.served : Phase → Bool
  | .fresh | .queued => false
  | _ => true

theorem Phase.served_iff_stage {p : Phase} : p.served = true ↔ 2 ≤ p.stage := by
  cases p with
  | ended e => cases e <;> simp [served, stage]
  | _ => simp [served, stage]

def State.isServed (s : State) (i : Nat) : Bool := s.tasks[i]?.any Phase.served

/-- The queue is in the order of the tasks, and up to the stage `most` no task has come further than
one before it. -/
structure InLine (most : Nat) (s : State) : Prop where
  two_le : 2 ≤ most
  queue : s.queue.Pairwise (· < ·)
  stage : ∀ (i j : Nat) (p p' : Phase), i < j → s.tasks[i]? = some p → s.tasks[j]? = some p' →
    min most p'.stage ≤ p.stage

namespace InLine

variable {jobs : List Behaviour} {cancelAt : Option Nat} {most n : Nat} {s s' : State} {i : Nat}
  {p p' : Phase}

theorem initial (hMost : 2 ≤ most) (permits tasks : Nat) : InLine most (.initial permits tasks) where
  two_le := hMost
  queue := .nil
  stage := by
    intro i j p p' _ hi hj
    simp only [State.initial, List.getElem?_replicate, Option.ite_none_right_eq_some,
      Option.some.injEq] at hi hj
    rw [← hi.2, ← hj.2]
    exact Nat.min_le_right ..

/-- A task goes on, but not further than those before it have come. -/
theorem setPhase (h : InLine most s) (hi : s.tasks[i]? = some p) (hStage : p.stage ≤ p'.stage)
    (hBefore : ∀ (j : Nat) (q : Phase), j < i → s.tasks[j]? = some q →
      min most p'.stage ≤ q.stage) :
    InLine most (s.setPhase i p') where
  two_le := h.two_le
  queue := h.queue
  stage := by
    intro j k q r hjk hj hk
    obtain ⟨hlt, -⟩ := List.getElem?_eq_some_iff.mp hi
    rw [State.getElem?_setPhase _ _ _ _ hlt] at hj hk
    split at hj
    next hij =>
      subst hij
      obtain rfl := Option.some.inj hj
      rw [if_neg (by omega)] at hk
      exact Nat.le_trans (h.stage i k p r hjk hi hk) hStage
    next hij =>
      split at hk
      next hik =>
        subst hik
        obtain rfl := Option.some.inj hk
        exact hBefore j q hjk hj
      next => exact h.stage j k q r hjk hj hk

/-- The task that gets the permit is the first of those that wait, so all before it have got
theirs. -/
theorem release (h : InLine most s) (hQueue : ∀ j, j ∈ s.queue ↔ s.tasks[j]? = some .queued) :
    InLine most s.release := by
  unfold State.release
  split
  next => exact ⟨h.two_le, h.queue, h.stage⟩
  next k rest hq =>
    have hk : s.tasks[k]? = some .queued := (hQueue k).mp (by simp [hq])
    have hSorted := h.queue
    rw [hq, List.pairwise_cons] at hSorted
    have hBefore : ∀ (j : Nat) (q : Phase), j < k → s.tasks[j]? = some q → 2 ≤ q.stage := by
      intro j q hjk hj
      cases q with
      | fresh =>
          have hTwo := h.two_le
          have hStage : min most 1 ≤ 0 := h.stage j k .fresh .queued hjk hj hk
          omega
      | queued =>
          have hMem : j ∈ k :: rest := hq ▸ (hQueue j).mpr hj
          rcases List.mem_cons.mp hMem with rfl | hRest
          · omega
          · have hAfter := hSorted.1 j hRest
            omega
      | admitted => simp [Phase.stage]
      | running t => simp [Phase.stage]
      | ended e => exact Nat.le_of_succ_le (Phase.three_le_stage_ended e)
    have hServed : InLine most (s.setPhase k .admitted) :=
      h.setPhase hk (by simp [Phase.stage]) fun j q hjk hj =>
        Nat.le_trans (Nat.min_le_right ..) (hBefore j q hjk hj)
    exact ⟨h.two_le, hSorted.2, hServed.stage⟩

/-- All that wait for a permit when a task asks for one for the first time stand before it. -/
theorem lt_of_mem_queue (h : InLine most s) (hSound : Sound jobs n s)
    (hi : s.tasks[i]? = some .fresh) {k : Nat} (hk : k ∈ s.queue) : k < i := by
  have hQueued := (hSound.mem_queue k).mp hk
  by_contra hik
  rcases Nat.lt_or_eq_of_le (Nat.le_of_not_lt hik) with hlt | rfl
  · have hTwo := h.two_le
    have hStage : min most 1 ≤ 0 := h.stage i k .fresh .queued hlt hi hQueued
    omega
  · cases hi.symm.trans hQueued

theorem enqueue (h : InLine most s) (hSound : Sound jobs n s)
    (hRule : Rule.ordered jobs cancelAt s (.poll i)) (hi : s.tasks[i]? = some .fresh) :
    InLine most ({ s with queue := s.queue ++ [i] }.setPhase i .queued) := by
  have hBefore : ∀ (j : Nat) (q : Phase), j < i → s.tasks[j]? = some q → 1 ≤ q.stage := by
    intro j q hj hq
    cases q with
    | fresh => exact absurd hq (hRule hi j hj)
    | ended e => exact Nat.le_trans (by omega) (Phase.three_le_stage_ended e)
    | _ => simp [Phase.stage]
  have hSet : InLine most (s.setPhase i .queued) :=
    h.setPhase hi (by simp [Phase.stage]) fun j q hj hq =>
      Nat.le_trans (Nat.min_le_right ..) (hBefore j q hj hq)
  refine ⟨h.two_le, ?_, hSet.stage⟩
  rw [State.setPhase, List.pairwise_append]
  refine ⟨h.queue, List.pairwise_singleton .., ?_⟩
  intro k hk l hl
  rw [List.mem_singleton.mp hl]
  exact h.lt_of_mem_queue hSound hi hk

/-- All before a task whose request is granted have been given a permit. -/
theorem two_le_stage (h : InLine most s) (hSound : Sound jobs n s)
    (hRule : Rule.ordered jobs cancelAt s (.poll i)) (hAcquires : s.acquires i = true) (j : Nat)
    (q : Phase) (hj : j < i) (hq : s.tasks[j]? = some q) : 2 ≤ q.stage := by
  unfold State.acquires at hAcquires
  split at hAcquires
  next hi =>
    have hFree : s.free ≠ 0 := by simpa using hAcquires
    cases q with
    | fresh => exact absurd hq (hRule hi j hj)
    | queued =>
        have hQueue := List.ne_nil_of_mem ((hSound.mem_queue j).mpr hq)
        exact absurd (hSound.free_eq_zero hQueue) hFree
    | admitted => simp [Phase.stage]
    | running t => simp [Phase.stage]
    | ended e => exact Nat.le_of_succ_le (Phase.three_le_stage_ended e)
  next hi =>
    have hTwo := h.two_le
    have hStage : min most 2 ≤ q.stage := h.stage j i q .admitted hj hq hi
    omega
  next => cases hAcquires

/-- If tasks come in turn, they have passed the semaphore. -/
theorem three_le_stage (h : InLine most s) (hSound : Sound jobs n s)
    (hRule : Rule.inTurn jobs cancelAt s (.poll i)) (hAcquires : s.acquires i = true) (j : Nat)
    (q : Phase) (hj : j < i) (hq : s.tasks[j]? = some q) : 3 ≤ q.stage := by
  have hServed := h.two_le_stage hSound hRule.1 hAcquires j q hj hq
  cases q with
  | fresh => simp [Phase.stage] at hServed
  | queued => simp [Phase.stage] at hServed
  | admitted => exact absurd hq (hRule.2 hAcquires j hj)
  | running t => simp [Phase.stage]
  | ended e => exact Phase.three_le_stage_ended e

/-- While the bench is not being stopped no task was skipped, so the jobs of all before it have been
started. -/
theorem four_le_stage (h : InLine most s) (hSound : Sound jobs n s) (hFaithful : Faithful jobs s)
    (hRule : Rule.inTurn jobs cancelAt s (.poll i)) (hAcquires : s.acquires i = true)
    (hs : s.stopping = false) (j : Nat) (q : Phase) (hj : j < i) (hq : s.tasks[j]? = some q) :
    4 ≤ q.stage := by
  have hPassed := h.three_le_stage hSound hRule hAcquires j q hj hq
  cases q with
  | ended e =>
      obtain ⟨start, stop, r, rfl⟩ := hFaithful.replied hs j e hq
      exact Nat.le_refl _
  | running t => exact Nat.le_refl _
  | _ => simp [Phase.stage] at hPassed

/-- All before the task that is polled have come as far as it can come now, if its request is
granted: behind the semaphore, or to their jobs while the bench is not being stopped. -/
def Clears (most : Nat) (s : State) (i : Nat) : Prop :=
  s.acquires i = true → ∀ (j : Nat) (q : Phase), j < i → s.tasks[j]? = some q →
    min most (if s.stopping then 3 else 4) ≤ q.stage

/-- A task that ends has not come further than those before it. -/
theorem ended (h : InLine most s) (hClears : Clears most s i) {b : Behaviour} {e : Ending}
    {left : Nat} (hi : s.tasks[i]? = some p) (ht : p.Takes s.free left) (he : p.Ends s b e) :
    InLine most (s.setPhase i (.ended e)) := by
  cases he with
  | skipped hp hs =>
      have hBefore := hClears (State.acquires_of_takes hi hp ht)
      rw [hs] at hBefore
      exact h.setPhase hi (Nat.le_trans hp.stage_le (by simp [Phase.stage])) hBefore
  | atOnce hp hs =>
      have hBefore := hClears (State.acquires_of_takes hi hp ht)
      rw [hs] at hBefore
      exact h.setPhase hi (Nat.le_trans hp.stage_le (by simp [Phase.stage])) hBefore
  | @dropped t hs =>
      have hBefore := fun j q hj hq => h.stage j i q (.running t) hj hq hi
      exact h.setPhase hi (by simp [Phase.stage]) hBefore
  | @replied t hs =>
      have hBefore := fun j q hj hq => h.stage j i q (.running t) hj hq hi
      exact h.setPhase hi (by simp [Phase.stage]) hBefore

theorem polled (h : InLine most s) (hSound : Sound jobs n s)
    (hRule : Rule.ordered jobs cancelAt s (.poll i)) (hClears : Clears most s i)
    (hPoll : Polled jobs s i s') : InLine most s' := by
  cases hPoll with
  | idle => exact h
  | queued hi hf => exact h.enqueue hSound hRule hi
  | @started b p left peak hb hi hp ht hs hd =>
      have hBefore := hClears (State.acquires_of_takes hi hp ht)
      rw [hs] at hBefore
      have hSet : InLine most (s.setPhase i (.running s.now)) :=
        h.setPhase hi (Nat.le_trans hp.stage_le (by simp [Phase.stage])) hBefore
      exact ⟨h.two_le, hSet.queue, hSet.stage⟩
  | @ended b p e left peak hb hi ht he =>
      have hSet := h.ended hClears hi ht he
      refine release ⟨h.two_le, hSet.queue, hSet.stage⟩ ?_
      exact mem_queue_setPhase (s := { s with free := left, peak := peak, aborted := _ })
        hSound.mem_queue hi ht.ne_queued (by simp)

/-- If the tasks are polled for the first time in their order, they are given their permits so. -/
theorem turn_ordered (h : InLine 2 s) (hSound : Sound jobs n s) {t : Turn}
    (hRule : Rule.ordered jobs cancelAt s t) : InLine 2 (s.turn jobs t) := by
  cases t with
  | poll i =>
      refine h.polled hSound hRule (fun hAcquires j q hj hq => ?_) (s.polled_poll jobs i)
      exact Nat.le_trans (Nat.min_le_left ..) (h.two_le_stage hSound hRule hAcquires j q hj hq)
  | wait t => exact ⟨h.two_le, h.queue, h.stage⟩
  | stop => exact ⟨h.two_le, h.queue, h.stage⟩

/-- If they come in turn, their jobs start so. -/
theorem turn (h : InLine 4 s) (hSound : Sound jobs n s) (hFaithful : Faithful jobs s) {t : Turn}
    (hRule : Rule.inTurn jobs cancelAt s t) : InLine 4 (s.turn jobs t) := by
  cases t with
  | poll i =>
      refine h.polled hSound hRule.1 (fun hAcquires j q hj hq => ?_) (s.polled_poll jobs i)
      refine Nat.le_trans (Nat.min_le_right ..) ?_
      cases hs : s.stopping with
      | true => exact h.three_le_stage hSound hRule hAcquires j q hj hq
      | false => exact h.four_le_stage hSound hFaithful hRule hAcquires hs j q hj hq
  | wait t => exact ⟨h.two_le, h.queue, h.stage⟩
  | stop => exact ⟨h.two_le, h.queue, h.stage⟩

/-- If a task was given a permit, so were all before it. -/
theorem isServed_of_lt (h : InLine most s) {j : Nat} (hij : i < j) (hj : s.isServed j = true) :
    s.isServed i = true := by
  obtain ⟨p, hp, hServed⟩ := (Option.any_eq_true _ _).mp hj
  have hlt := (List.getElem?_eq_some_iff.mp hp).1
  have hi : s.tasks[i]? = some s.tasks[i] := List.getElem?_eq_getElem (by omega)
  have hTwo := h.two_le
  have hStage := h.stage i j _ p hij hi hp
  rw [Phase.served_iff_stage] at hServed
  rw [State.isServed, hi, Option.any_some, Phase.served_iff_stage]
  omega

/-- If the job of a task was started, so were those of all tasks before it. -/
theorem hasBegun_of_lt (h : InLine 4 s) {j : Nat} (hij : i < j) (hj : s.hasBegun j = true) :
    s.hasBegun i = true := by
  obtain ⟨p, hp, hBegun⟩ := (Option.any_eq_true _ _).mp hj
  have hlt := (List.getElem?_eq_some_iff.mp hp).1
  have hi : s.tasks[i]? = some s.tasks[i] := List.getElem?_eq_getElem (by omega)
  have hStage := h.stage i j _ p hij hi hp
  have hLast := s.tasks[i].stage_le_four
  rw [Phase.begun_iff_stage] at hBegun
  rw [State.hasBegun_of_phase hi, Phase.begun_iff_stage]
  omega

end InLine

/-- If tasks are polled for the first time in their order, they are given their permits so. -/
theorem Follows.inLine {jobs : List Behaviour} {cancelAt : Option Nat} {n : Nat} {s : State}
    {turns : List Turn} (h : Follows .ordered jobs cancelAt s turns) (hSound : Sound jobs n s)
    (hLine : InLine 2 s) : InLine 2 (s.course jobs turns) :=
  (h.invariant (P := fun s => Sound jobs n s ∧ InLine 2 s)
    (fun _ t hRule hs => ⟨hs.1.turn t, hs.2.turn_ordered hs.1 hRule⟩) ⟨hSound, hLine⟩).2

/-- If tasks come in turn, programs are handed over one after the other from the first one on. -/
theorem Follows.handed_eq {jobs : List Behaviour} {cancelAt : Option Nat} {n m : Nat} {s : State}
    {turns : List Turn} (h : Follows .inTurn jobs cancelAt s turns) (hSound : Sound jobs n s)
    (hFaithful : Faithful jobs s) (hLine : InLine 4 s)
    (hBegun : ∀ j, s.hasBegun j = true ↔ j < m) :
    ∃ k, s.handed jobs turns = List.range' m k ∧
      ∀ j, (s.course jobs turns).hasBegun j = true ↔ j < m + k := by
  induction turns generalizing s m with
  | nil => exact ⟨0, rfl, hBegun⟩
  | cons t ts ih =>
      have hSound' := hSound.turn t
      have hFaithful' := hFaithful.turn hSound t
      have hLine' := hLine.turn hSound hFaithful h.1
      have hTurn : ∀ j, _ := fun j => State.hasBegun_turn (j := j) hSound t
      cases hHanded : s.handedBy t with
      | nil =>
          have hSame : ∀ j, (s.turn jobs t).hasBegun j = true ↔ j < m := by
            intro j
            rw [hTurn j, hHanded, hBegun j]
            simp
          obtain ⟨k, hRest, hAfter⟩ := ih h.2 hSound' hFaithful' hLine' hSame
          exact ⟨k, by rw [State.handed, hHanded, List.nil_append, hRest], hAfter⟩
      | cons i rest =>
          obtain ⟨rfl, hHands⟩ := State.mem_handedBy.mp (hHanded ▸ List.mem_cons_self)
          have hOne : rest = [] := by
            rw [State.handedBy, if_pos hHands] at hHanded
            exact (List.cons.inj hHanded).2.symm
          subst hOne
          have hNot : ¬ i < m := by
            rw [← hBegun i, State.hasBegun_eq_false_of_acquires (State.acquires_of_handsOver hHands)]
            simp
          have hNow : (s.turn jobs (.poll i)).hasBegun i = true := by
            rw [hTurn i, hHanded]
            simp
          -- A gap before the task would be a job that was not started before one that was.
          have hEq : i = m := by
            by_contra hGap
            have hBefore := hLine'.hasBegun_of_lt (i := m) (by omega) hNow
            rw [hTurn m, hHanded, hBegun m, List.mem_singleton] at hBefore
            omega
          subst hEq
          have hNext : ∀ j, (s.turn jobs (.poll i)).hasBegun j = true ↔ j < i + 1 := by
            intro j
            rw [hTurn j, hHanded, hBegun j, List.mem_singleton]
            omega
          obtain ⟨k, hRest, hAfter⟩ := ih h.2 hSound' hFaithful' hLine' hNext
          refine ⟨k + 1, ?_, ?_⟩
          · rw [State.handed, hHanded, hRest, List.range'_succ]
            rfl
          · intro j
            rw [State.course_cons, hAfter j]
            omega

/-! ## The scheduler of `run` -/

/-- The scheduler takes tasks in turn: where it polls one, none before it would get on. -/
theorem Rule.inTurn_of_scheduled {jobs : List Behaviour} {cancelAt : Option Nat} {s : State}
    {t : Turn} (h : scheduled jobs cancelAt s t) : inTurn jobs cancelAt s t := by
  cases t with
  | wait t => exact ⟨free_of_prompt (prompt_of_scheduled h), trivial⟩
  | stop => exact ⟨free_of_prompt (prompt_of_scheduled h), trivial⟩
  | poll i =>
      have hBefore : ∀ (j : Nat) (p : Phase), j < i → s.tasks[j]? = some p →
          ∃ b, s.isReady b p = false := by
        intro j p hj hp
        obtain ⟨b, q, hb, -, -⟩ := State.exists_ready h
        have hlt := (List.getElem?_eq_some_iff.mp hb).1
        have hJob : jobs[j]? = some jobs[j] := List.getElem?_eq_getElem (by omega)
        exact ⟨jobs[j], State.not_ready_of_lt h hj hJob hp⟩
      constructor
      · intro _ j hj hFresh
        obtain ⟨b, hNot⟩ := hBefore j _ hj hFresh
        cases hNot
      · intro _ j hj hAdmitted
        obtain ⟨b, hNot⟩ := hBefore j _ hj hAdmitted
        cases hNot

/-! ## The programs of a session -/

section

variable {q : Request} {selection : List Kind} {ps : List Program}

/-- The programs that are handed over to the oracle in the given turns. -/
def Request.handed (q : Request) (oracle : Oracle) (ps : List Program) (turns : List Turn) :
    List Program :=
  ((q.opening ps).handed (oracle.jobs ps) turns).filterMap (ps[·]?)

/-- What is handed over in a session is a job that was started. -/
theorem handedOnce (oracle : Oracle) (q : Request) (ps : List Program) (turns : List Turn) :
    HandedOnce (q.opening ps) (q.bench oracle ps turns)
      ((q.opening ps).handed (oracle.jobs ps) turns) :=
  (opening_sound oracle q ps).handed turns

/-- The programs are different ones, so none is handed over twice. -/
theorem nodup_handed (oracle : Oracle) (hNodup : ps.Nodup) (turns : List Turn) :
    (q.handed oracle ps turns).Nodup := by
  apply List.Nodup.filterMap _ (handedOnce oracle q ps turns).nodup
  intro j k p hj hk
  have hlt := (List.getElem?_eq_some_iff.mp hj).1
  exact (List.getElem?_inj hlt hNodup).mp (hj.trans hk.symm)

theorem hasBegun_opening (q : Request) (ps : List Program) (j : Nat) :
    (q.opening ps).hasBegun j = false := by
  simp only [State.hasBegun, Request.opening, State.initial, List.getElem?_replicate]
  split <;> rfl

theorem hasBegun_iff_mem_handed (oracle : Oracle) {turns : List Turn} {j : Nat} {p : Program}
    (hNodup : ps.Nodup) (hp : ps[j]? = some p) :
    (q.bench oracle ps turns).hasBegun j = true ↔ p ∈ q.handed oracle ps turns := by
  rw [(handedOnce oracle q ps turns).hasBegun j, hasBegun_opening, Request.handed,
    List.mem_filterMap]
  simp only [Bool.false_eq_true, false_or]
  constructor
  · intro hj
    exact ⟨j, hj, hp⟩
  · rintro ⟨k, hk, hpk⟩
    have hlt := (List.getElem?_eq_some_iff.mp hp).1
    rwa [(List.getElem?_inj hlt hNodup).mp (hp.trans hpk.symm)]

theorem filterMap_range_getElem? {α : Type} (xs : List α) (m : Nat) :
    (List.range m).filterMap (xs[·]?) = xs.take m := by
  induction m with
  | zero => rfl
  | succ m ih =>
      rw [List.range_succ, List.filterMap_append, ih, List.take_add_one]
      cases hx : xs[m]? <;> simp [hx]

/-- **Bounded concurrency and the order of starts.** Whatever turns the tasks take, not more jobs are
in flight at a time than the session asks for, or one if it asks for none, and no program is handed
over to the oracle twice. If the tasks are polled for the first time in their order, they are given
their permits in their order. If besides those that were given a permit are polled in the order in
which they were, the programs that were handed over are the first ones of the selection. What `run`
returns comes from such a course, and if a session breaks down no program was handed over in it. -/
theorem started_in_order (oracle : Oracle) (hs : q.catalog.select q.requested = .ok selection)
    (hp : selection.mapM Kind.synthesizeDefault = .ok ps) :
    (∀ turns, (q.bench oracle ps turns).inFlight ≤ max 1 q.parallelism ∧
      (q.bench oracle ps turns).peak ≤ max 1 q.parallelism ∧
      (q.handed oracle ps turns).Nodup ∧
      ∀ (j : Nat) (p : Program), ps[j]? = some p →
        ((q.bench oracle ps turns).hasBegun j = true ↔ p ∈ q.handed oracle ps turns)) ∧
    (∀ turns, Follows .ordered (oracle.jobs ps) q.cancelAt (q.opening ps) turns →
      ∀ i j, i < j → (q.bench oracle ps turns).isServed j = true →
        (q.bench oracle ps turns).isServed i = true) ∧
    (∀ turns, Follows .inTurn (oracle.jobs ps) q.cancelAt (q.opening ps) turns →
      ∃ m, (q.handed oracle ps turns).map Program.kind = (selection.map Kind.id).take m ∧
        ∀ j, (q.bench oracle ps turns).hasBegun j = true ↔ j < m) ∧
    (¬ BreaksDown oracle q →
      ∃ session turns, run oracle q = .ok session ∧
        Held .inTurn oracle q selection turns session) ∧
    (BreaksDown oracle q → (perform oracle q).run =
      ⟨.error (.panic tooManyPermits), [.emit (.started ps.length q.permits), .probe]⟩) := by
  have hPermits : q.permits = max 1 q.parallelism := Nat.max_comm ..
  have hSound := opening_sound oracle q ps
  have hNodup : ps.Nodup := by
    apply List.Nodup.of_map Program.kind
    rw [map_kind_of_mapM hp]
    exact Catalog.select_nodup hs
  refine ⟨?_, ?_, ?_, ?_, run_perform_breaksDown hs hp⟩
  · intro turns
    exact ⟨hPermits ▸ (bench_sound oracle q ps turns).inFlight_le,
      hPermits ▸ hSound.peak_course_le (Nat.zero_le _) turns, nodup_handed oracle hNodup turns,
      fun j p hj => hasBegun_iff_mem_handed oracle hNodup hj⟩
  · intro turns hFollows i j hij hServed
    have hLine := hFollows.inLine hSound (.initial (Nat.le_refl 2) q.permits ps.length)
    exact hLine.isServed_of_lt hij hServed
  · intro turns hFollows
    have hFaithful : Faithful (oracle.jobs ps) (q.opening ps) := .initial q.permits ps.length
    obtain ⟨m, hHanded, hBegun⟩ := hFollows.handed_eq (m := 0) hSound hFaithful
      (.initial (by omega) q.permits ps.length) (by simp [hasBegun_opening])
    rw [Nat.zero_add] at hBegun
    refine ⟨m, ?_, hBegun⟩
    rw [Request.handed, hHanded, ← List.range_eq_range', filterMap_range_getElem?, List.map_take,
      map_kind_of_mapM hp]
  · intro hb
    obtain ⟨session, turns, hRun, h⟩ := exists_scheduled hs hp hb
    exact ⟨session, turns, hRun, h.mono fun _ _ _ _ => Rule.inTurn_of_scheduled⟩

theorem started_in_order_mixed :
    (∃ session turns m, run .mixed (.builtins 2 none) = .ok session ∧
      Held .inTurn .mixed (.builtins 2 none) Kind.builtins turns session ∧
      ((Request.builtins 2 none).bench .mixed (Kind.builtins.map Kind.program) turns).peak ≤ 2 ∧
      ((Request.builtins 2 none).handed .mixed (Kind.builtins.map Kind.program) turns).map
        Program.kind = (Kind.builtins.map Kind.id).take m) ∧
    (perform .mixed (.builtins (maxPermits + 1) none)).run = ⟨.error (.panic tooManyPermits),
      [.emit (.started 5 (maxPermits + 1)), .probe]⟩ := by
  constructor
  · obtain ⟨hBounded, -, hOrder, hRuns, -⟩ :=
      started_in_order (q := .builtins 2 none) .mixed rfl mapM_builtins
    obtain ⟨session, turns, hRun, h⟩ := hRuns (not_breaksDown .mixed (by decide))
    obtain ⟨hFollows, -, -⟩ := h.record_eq (by simp [Request.builtins]) rfl
    rw [h.programs_eq mapM_builtins] at hFollows
    obtain ⟨m, hKinds, -⟩ := hOrder turns hFollows
    exact ⟨session, turns, m, hRun, h, (hBounded turns).2.1, hKinds⟩
  · obtain ⟨-, -, -, -, hBreaks⟩ :=
      started_in_order (q := .builtins (maxPermits + 1) none) .mixed rfl mapM_builtins
    exact hBreaks ⟨by simp [Request.builtins], rfl, Nat.lt_succ_self maxPermits⟩

/-- What breaks down on every program after a while. -/
def Oracle.slow : Oracle where
  unavailable := none
  behaviour := fun _ => ⟨1, .panic "lost"⟩

/-- Two tasks start their jobs, and the other ones wait for a permit. When both jobs have replied, two
of these have been given one, and the later one is polled first. -/
def overtaking : List Turn :=
  [.poll 0, .poll 1, .poll 2, .poll 3, .poll 4, .wait 1, .poll 0, .poll 1, .poll 3]

/-- On a virtual clock, and with tasks that are polled for the first time in their order, a job is
started before one in front of it. And there is a number of permits for which a session has no
course at all. -/
theorem started_out_of_order :
    (Follows .ordered (Oracle.slow.jobs (Kind.builtins.map Kind.program)) none
        ((Request.builtins 2 none).opening (Kind.builtins.map Kind.program)) overtaking ∧
      Follows .prompt (Oracle.slow.jobs (Kind.builtins.map Kind.program)) none
        ((Request.builtins 2 none).opening (Kind.builtins.map Kind.program)) overtaking ∧
      ¬ ∃ m, ((Request.builtins 2 none).handed .slow (Kind.builtins.map Kind.program)
        overtaking).map Program.kind = (Kind.builtins.map Kind.id).take m) ∧
    run .slow (.builtins (maxPermits + 1) none) = .error (.panic tooManyPermits) := by
  refine ⟨⟨?_, ?_, ?_⟩, ?_⟩
  · simp only [Follows, overtaking, Rule.ordered, Rule.free]
    decide
  · simp only [Follows, overtaking, Rule.prompt]
    decide
  · have hHanded : ((Request.builtins 2 none).opening (Kind.builtins.map Kind.program)).handed
        (Oracle.slow.jobs (Kind.builtins.map Kind.program)) overtaking = [0, 1, 3] := by decide
    rintro ⟨m, h⟩
    rw [Request.handed, hHanded] at h
    have hPrefix := List.take_prefix m (Kind.builtins.map Kind.id)
    rw [← h] at hPrefix
    exact absurd hPrefix (by decide)
  · exact run_of_breaksDown rfl mapM_builtins
      ⟨by simp [Request.builtins], rfl, Nat.lt_succ_self maxPermits⟩

end

end FaultBench.Bench

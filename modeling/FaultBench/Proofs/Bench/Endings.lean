import FaultBench.Proofs.Bench.Phases

/-!
# How tasks end

`Faithful` says what the phases of a bench tell: a reply is the reply of the task's own job, the
bench is aborted exactly if one of the replies is fatal, and while it is not being stopped every
task that has ended has got its reply. Every turn keeps this (`Faithful.turn`).

A task that has ended stays as it ended (`course_ended`). Once a bench is being stopped, no job is
started and no reply is received any more (`course_windsDown`).
-/

namespace FaultBench.Bench

namespace Phase

/-- How a task goes on while the bench is being stopped: what has ended stays, no job is started,
and no reply is received. -/
structure WindsDown (p p' : Phase) : Prop where
  ended : ∀ e, p = .ended e → p' = .ended e
  begun : p'.begun = true → p.begun = true
  replied : ∀ start stop r, p' = .ended (.replied start stop r) → p = p'

namespace WindsDown

theorem refl (p : Phase) : p.WindsDown p := ⟨fun _ h => h, fun h => h, fun _ _ _ _ => rfl⟩

theorem trans {p q r : Phase} (h : p.WindsDown q) (h' : q.WindsDown r) : p.WindsDown r where
  ended := fun e he => h'.ended e (h.ended e he)
  begun := fun hb => h.begun (h'.begun hb)
  replied := by
    intro start stop reply hr
    obtain rfl := h'.replied start stop reply hr
    exact h.replied start stop reply hr

/-- What has not ended ends without a reply. -/
theorem toOutcome_eq {p : Phase} {e : Ending} (h : p.WindsDown (.ended e))
    (hp : p.isEnded = false) (kind : KindId) : e.toOutcome kind = .error (.cancelled kind) := by
  cases e with
  | skipped => rfl
  | dropped start stop => rfl
  | replied start stop r =>
      obtain rfl := h.replied start stop r rfl
      simp [isEnded] at hp

end WindsDown

variable {s s' : State} {b : Behaviour} {p p' : Phase}

theorem Next.of_ended {e : Ending} (h : Next s s' b (.ended e) p') : p' = .ended e := by
  cases h with
  | same => rfl
  | started hp => cases hp
  | ended he => cases he with
    | skipped hp => cases hp
    | atOnce hp => cases hp

theorem Next.windsDown (h : Next s s' b p p') (hs : s.stopping = true) : p.WindsDown p' := by
  cases h with
  | same => exact .refl p
  | queued => exact ⟨by simp, by simp [begun], by simp⟩
  | admitted => exact ⟨by simp, by simp [begun], by simp⟩
  | started hp hNot => simp [hs] at hNot
  | ended he => cases he with
    | skipped hp =>
        refine ⟨?_, by simp [begun], by simp⟩
        rintro e rfl
        cases hp
    | dropped => exact ⟨by simp, by simp [begun], by simp⟩
    | atOnce hp hNot => simp [hs] at hNot
    | replied hNot => simp [hs] at hNot

end Phase

namespace State

/-- The job of task `j` was started, now or before. -/
def hasBegun (s : State) (j : Nat) : Bool := s.tasks[j]?.any Phase.begun

def hasEnded (s : State) (j : Nat) : Bool := s.tasks[j]?.any Phase.isEnded

variable {jobs : List Behaviour} {n : Nat} {s : State} {j : Nat} {b : Behaviour} {p : Phase}

theorem hasEnded_iff : s.hasEnded j = true ↔ ∃ e, s.tasks[j]? = some (.ended e) := by
  rw [hasEnded, Option.any_eq_true]
  constructor
  · rintro ⟨p, hp, hEnded⟩
    cases p with
    | ended e => exact ⟨e, hp⟩
    | _ => cases hEnded
  · rintro ⟨e, he⟩
    exact ⟨_, he, rfl⟩

/-- A task that has ended stays as it ended. -/
theorem course_ended (h : Sound jobs n s) (turns : List Turn) {e : Ending}
    (hj : s.tasks[j]? = some (.ended e)) :
    (s.course jobs turns).tasks[j]? = some (.ended e) := by
  induction turns generalizing s with
  | nil => exact hj
  | cons t ts ih =>
      obtain ⟨b, hb⟩ := h.exists_job hj
      obtain ⟨p', hp', hNext⟩ := turn_phase h t hb hj
      exact ih (h.turn t) (hNext.of_ended ▸ hp')

/-- Once a bench is being stopped, its tasks wind down. -/
theorem course_windsDown (h : Sound jobs n s) (turns : List Turn) (hs : s.stopping = true)
    (hj : s.tasks[j]? = some p) :
    ∃ p', (s.course jobs turns).tasks[j]? = some p' ∧ p.WindsDown p' := by
  induction turns generalizing s p with
  | nil => exact ⟨p, hj, .refl p⟩
  | cons t ts ih =>
      obtain ⟨b, hb⟩ := h.exists_job hj
      obtain ⟨q, hq, hNext⟩ := turn_phase h t hb hj
      obtain ⟨p', hp', hRest⟩ := ih (h.turn t) (turn_stopping t hs) hq
      exact ⟨p', hp', (hNext.windsDown hs).trans hRest⟩

/-- From the turn on that stops a bench, all tasks wind down but the one that is polled then. -/
theorem windsDown_of_turn (h : Sound jobs n s) {t : Turn} (ts : List Turn) (ht : t ≠ .poll j)
    (hs : (s.turn jobs t).stopping = true) (hj : s.tasks[j]? = some p) :
    ∃ p', (s.course jobs (t :: ts)).tasks[j]? = some p' ∧ p.WindsDown p' := by
  obtain ⟨q, hq, hFirst⟩ : ∃ q, (s.turn jobs t).tasks[j]? = some q ∧ p.WindsDown q := by
    cases t with
    | wait t => exact ⟨p, hj, .refl p⟩
    | stop => exact ⟨p, hj, .refl p⟩
    | poll i =>
        have hij : i ≠ j := fun hij => ht (hij ▸ rfl)
        rcases (s.polled_poll jobs i).phase_of_ne h hij hj with hSame | ⟨rfl, hAdmitted⟩
        · exact ⟨p, hSame, .refl p⟩
        · exact ⟨.admitted, hAdmitted, by simp, by simp [Phase.begun], by simp⟩
  obtain ⟨p', hp', hRest⟩ := course_windsDown (h.turn t) ts hs hq
  exact ⟨p', hp', hFirst.trans hRest⟩

/-- From the turn on that stops a bench, no job is started but the one of the task that is polled
then. -/
theorem hasBegun_of_turn (h : Sound jobs n s) {t : Turn} {ts : List Turn} (ht : t ≠ .poll j)
    (hs : (s.turn jobs t).stopping = true) (hj : (s.course jobs (t :: ts)).hasBegun j = true) :
    s.hasBegun j = true := by
  obtain ⟨p', hp', hBegun⟩ := (Option.any_eq_true _ _).mp hj
  obtain ⟨b, hb⟩ := (h.course (t :: ts)).exists_job hp'
  obtain ⟨p, hp⟩ := h.exists_phase hb
  obtain ⟨q, hq, hDown⟩ := windsDown_of_turn h ts ht hs hp
  cases hp'.symm.trans hq
  exact (Option.any_eq_true _ _).mpr ⟨p, hp, hDown.begun hBegun⟩

theorem isDone_iff : s.isDone = true ↔
    ∀ (j : Nat) (p : Phase), s.tasks[j]? = some p → ∃ e, p = .ended e := by
  simp only [isDone, List.all_eq_true]
  constructor
  · intro h j p hj
    cases p with
    | ended e => exact ⟨e, rfl⟩
    | _ => exact absurd (h _ (List.mem_of_getElem? hj)) (by simp [Phase.isEnded])
  · intro h p hp
    obtain ⟨j, hj⟩ := List.mem_iff_getElem?.mp hp
    obtain ⟨e, rfl⟩ := h j p hj
    rfl

end State

/-! ## Replies and the flag that aborts a bench -/

/-- What the phases of a bench tell is true of its jobs and its flags. -/
structure Faithful (jobs : List Behaviour) (s : State) : Prop where
  reply : ∀ (j : Nat) (b : Behaviour) (start stop : Nat) (r : Reply), jobs[j]? = some b →
    s.tasks[j]? = some (.ended (.replied start stop r)) → r = b.reply
  aborted : s.aborted = true ↔
    ∃ (j : Nat) (e : Ending), s.tasks[j]? = some (.ended e) ∧ e.isFatal = true
  replied : s.stopping = false → ∀ (j : Nat) (e : Ending), s.tasks[j]? = some (.ended e) →
    ∃ start stop r, e = .replied start stop r

namespace Faithful

variable {jobs : List Behaviour} {n : Nat} {s : State}

theorem initial (permits tasks : Nat) : Faithful jobs (.initial permits tasks) where
  reply := by simp [State.initial, List.getElem?_replicate]
  aborted := by simp [State.initial, List.getElem?_replicate]
  replied := by simp [State.initial, List.getElem?_replicate]

theorem turn (hSound : Sound jobs n s) (h : Faithful jobs s) (t : Turn) :
    Faithful jobs (s.turn jobs t) where
  reply := by
    intro j b start stop r hb hj
    obtain ⟨p, hp, hNext⟩ := State.exists_phase_before hSound t hb hj
    cases hNext with
    | same => exact h.reply j b start stop r hb hp
    | ended he => cases he <;> rfl
  aborted := by
    constructor
    · intro ha
      cases hs : s.aborted with
      | false =>
          obtain ⟨i, b, p, e, -, -, -, -, hFatal, hEnded⟩ := State.aborted_turn hSound hs ha
          exact ⟨i, e, hEnded, hFatal⟩
      | true =>
          obtain ⟨j, e, hj, hFatal⟩ := h.aborted.mp hs
          exact ⟨j, e, State.course_ended hSound [t] hj, hFatal⟩
    · rintro ⟨j, e, hj, hFatal⟩
      obtain ⟨b, hb⟩ := (hSound.turn t).exists_job hj
      obtain ⟨p, hp, hNext⟩ := State.exists_phase_before hSound t hb hj
      cases hNext with
      | same => exact State.turn_aborted t (h.aborted.mpr ⟨j, e, hp, hFatal⟩)
      | ended he ha => simp [ha, hFatal]
  replied := by
    intro hs j e hj
    have hBefore : s.stopping = false := by
      cases hStopping : s.stopping with
      | false => rfl
      | true => simp [State.turn_stopping t hStopping] at hs
    obtain ⟨b, hb⟩ := (hSound.turn t).exists_job hj
    obtain ⟨p, hp, hNext⟩ := State.exists_phase_before hSound t hb hj
    cases hNext with
    | same => exact h.replied hBefore j e hp
    | ended he => cases he with
      | skipped hp hs' => simp [hBefore] at hs'
      | dropped hs' => simp [hBefore] at hs'
      | atOnce => exact ⟨_, _, _, rfl⟩
      | replied => exact ⟨_, _, _, rfl⟩

theorem course (hSound : Sound jobs n s) (h : Faithful jobs s) (turns : List Turn) :
    Faithful jobs (s.course jobs turns) := by
  induction turns generalizing s with
  | nil => exact h
  | cons t ts ih => exact ih (hSound.turn t) (turn hSound h t)

/-- While the bench is not being stopped, what has ended has ended with the reply of its job. -/
theorem exists_reply (h : Faithful jobs s) (hs : s.stopping = false) {j : Nat} {b : Behaviour}
    {e : Ending} (hb : jobs[j]? = some b) (hj : s.tasks[j]? = some (.ended e)) :
    ∃ start stop, e = .replied start stop b.reply := by
  obtain ⟨start, stop, r, rfl⟩ := h.replied hs j e hj
  exact ⟨start, stop, by rw [h.reply j b start stop r hb hj]⟩

/-- A task that winds down has got the reply of its job if it had ended before, and is cancelled
otherwise. -/
theorem toOutcome_eq (h : Faithful jobs s) (hs : s.stopping = false) {j : Nat} {b : Behaviour}
    {p : Phase} {e : Ending} (hb : jobs[j]? = some b) (hj : s.tasks[j]? = some p)
    (hDown : p.WindsDown (.ended e)) (kind : KindId) :
    e.toOutcome kind =
      if s.hasEnded j then b.reply.toOutcome kind else .error (.cancelled kind) := by
  have hEnded : s.hasEnded j = p.isEnded := by rw [State.hasEnded, hj, Option.any_some]
  rw [hEnded]
  cases p with
  | ended e' =>
      cases hDown.ended e' rfl
      obtain ⟨start, stop, rfl⟩ := h.exists_reply hs hb hj
      rfl
  | _ => exact hDown.toOutcome_eq rfl kind

/-- Without a fatal reply nothing aborts the bench. -/
theorem aborted_eq_false (hSound : Sound jobs n s) (h : Faithful jobs s)
    (hReply : ∀ b ∈ jobs, b.reply.isFatal = false) : s.aborted = false := by
  cases ha : s.aborted with
  | false => rfl
  | true =>
      obtain ⟨j, e, hj, hFatal⟩ := h.aborted.mp ha
      obtain ⟨b, hb⟩ := hSound.exists_job hj
      cases e with
      | skipped => cases hFatal
      | dropped start stop => cases hFatal
      | replied start stop r =>
          obtain rfl := h.reply j b start stop r hb hj
          have hNot := hReply b (List.mem_of_getElem? hb)
          exact absurd hFatal (by simp [Ending.isFatal, hNot])

end Faithful

/-- A bench that is not to be stopped from outside is not stopped from outside. -/
theorem Follows.cancelled_eq_false {jobs : List Behaviour} {s : State} {turns : List Turn}
    (h : Follows .free jobs none s turns) (hs : s.cancelled = false) :
    (s.course jobs turns).cancelled = false := by
  refine h.invariant (P := fun s => s.cancelled = false) (fun s t hRule hs => ?_) hs
  cases hc : (s.turn jobs t).cancelled with
  | false => rfl
  | true =>
      rcases (State.turn_cancelled t).mp hc with hBefore | rfl
      · simp [hs] at hBefore
      · simp [Rule.free] at hRule

end FaultBench.Bench

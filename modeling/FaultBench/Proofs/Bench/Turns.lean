import FaultBench.Bench.Schedule

/-!
# Turns

`State.poll` says what one poll does, and the scheduler of `State.steps` polls in one order of many.
Here a bench goes through any list of turns: a task is polled, time passes, or the bench is stopped
from outside. A rule says which turns may be taken in a state, and a list follows a rule if each of
its turns may be taken where it is.

* `Rule.free` leaves open which task is polled and when time passes. Whatever holds under it holds
  under every scheduler that lets a poll come to its end before the next one.
* `Rule.prompt` is the rule of a virtual clock: time passes only while no task would get on, and not
  beyond the next moment at which something happens.
* `Rule.scheduled` is what `State.steps` does: on a virtual clock, the first task that would get on
  is polled.

Main statements: `course_append`, `Follows.invariant` (what each turn keeps, a course keeps) and
`Follows.mono` (a scheduled course is a prompt one, and a prompt course is a free one).
-/

namespace FaultBench.Bench

/-- What can happen next on a bench. -/
inductive Turn
  | poll (i : Nat)
  /-- Time passes until `t`. -/
  | wait (t : Nat)
  /-- The bench is stopped from outside. -/
  | stop

namespace State

def turn (jobs : List Behaviour) (s : State) : Turn → State
  | .poll i => s.poll jobs i
  | .wait t => { s with now := t }
  | .stop => { s with cancelled := true }

/-- Where the given turns lead. -/
def course (jobs : List Behaviour) (s : State) (turns : List Turn) : State :=
  turns.foldl (turn jobs) s

@[simp] theorem course_nil (jobs : List Behaviour) (s : State) : s.course jobs [] = s := rfl

@[simp] theorem course_cons (jobs : List Behaviour) (s : State) (t : Turn) (ts : List Turn) :
    s.course jobs (t :: ts) = (s.turn jobs t).course jobs ts := rfl

@[simp] theorem course_append (jobs : List Behaviour) (s : State) (ts us : List Turn) :
    s.course jobs (ts ++ us) = (s.course jobs ts).course jobs us :=
  List.foldl_append

end State

/-- Which turns may be taken in a state of a bench that runs the given jobs and is stopped from
outside at the given time, if ever. -/
abbrev Rule := List Behaviour → Option Nat → State → Turn → Prop

namespace Rule

/-- Tasks are polled in any order and any number of times, and time passes at any moment. A bench
that is stopped at all is stopped at any moment. -/
def free : Rule
  | _, _, _, .poll _ => True
  | _, _, s, .wait t => s.now ≤ t
  | _, cancelAt, _, .stop => cancelAt.isSome

/-- Tasks are polled in any order and any number of times. Time passes only while there are tasks
that have not ended and none of them would get on, and not beyond the next moment at which something
happens. The bench is stopped at its time. -/
def prompt : Rule
  | _, _, _, .poll _ => True
  | jobs, cancelAt, s, .wait t =>
    s.now ≤ t ∧ s.isDone = false ∧ s.ready? jobs = none ∧ ∀ m ∈ s.moments jobs cancelAt, t ≤ m
  | _, cancelAt, s, .stop => cancelAt = some s.now

/-- The first task that would get on is polled. Time passes, and the bench is stopped, as on a
virtual clock. -/
def scheduled : Rule
  | jobs, _, s, .poll i => s.ready? jobs = some i
  | jobs, cancelAt, s, t => prompt jobs cancelAt s t

variable {jobs : List Behaviour} {cancelAt : Option Nat} {s : State} {t : Turn}

theorem prompt_of_scheduled (h : scheduled jobs cancelAt s t) : prompt jobs cancelAt s t := by
  cases t with
  | poll i => trivial
  | wait t => exact h
  | stop => exact h

theorem free_of_prompt (h : prompt jobs cancelAt s t) : free jobs cancelAt s t := by
  cases t with
  | poll i => trivial
  | wait t => exact h.1
  | stop =>
      have hAt : cancelAt = some s.now := h
      simp [free, hAt]

end Rule

/-- Each of the turns may be taken where it is. -/
def Follows (rule : Rule) (jobs : List Behaviour) (cancelAt : Option Nat) : State → List Turn → Prop
  | _, [] => True
  | s, t :: ts => rule jobs cancelAt s t ∧ Follows rule jobs cancelAt (s.turn jobs t) ts

namespace Follows

variable {rule : Rule} {jobs : List Behaviour} {cancelAt : Option Nat} {s : State}

theorem append_iff {ts us : List Turn} :
    Follows rule jobs cancelAt s (ts ++ us) ↔
      Follows rule jobs cancelAt s ts ∧ Follows rule jobs cancelAt (s.course jobs ts) us := by
  induction ts generalizing s with
  | nil => simp [Follows]
  | cons t ts ih => simp [Follows, ih, and_assoc]

theorem mono {other : Rule}
    (hRule : ∀ s t, rule jobs cancelAt s t → other jobs cancelAt s t) {ts : List Turn}
    (h : Follows rule jobs cancelAt s ts) : Follows other jobs cancelAt s ts := by
  induction ts generalizing s with
  | nil => trivial
  | cons t ts ih => exact ⟨hRule s t h.1, ih h.2⟩

theorem free_of_prompt {ts : List Turn} (h : Follows .prompt jobs cancelAt s ts) :
    Follows .free jobs cancelAt s ts :=
  h.mono fun _ _ => Rule.free_of_prompt

theorem prompt_of_scheduled {ts : List Turn} (h : Follows .scheduled jobs cancelAt s ts) :
    Follows .prompt jobs cancelAt s ts :=
  h.mono fun _ _ => Rule.prompt_of_scheduled

/-- What every turn keeps that the rule allows, a course by the rule keeps. -/
theorem invariant {P : State → Prop} {ts : List Turn} (h : Follows rule jobs cancelAt s ts)
    (hTurn : ∀ s t, rule jobs cancelAt s t → P s → P (s.turn jobs t)) (hs : P s) :
    P (s.course jobs ts) := by
  induction ts generalizing s with
  | nil => exact hs
  | cons t ts ih => exact ih h.2 (hTurn s t h.1 hs)

/-- If a property does not hold at first and holds in the end, there is a turn that brings it
about. -/
theorem exists_first {P : State → Prop} {ts : List Turn} (h : Follows rule jobs cancelAt s ts)
    (hs : ¬ P s) (hEnd : P (s.course jobs ts)) :
    ∃ before t after, ts = before ++ t :: after ∧ ¬ P (s.course jobs before) ∧
      P ((s.course jobs before).turn jobs t) ∧ rule jobs cancelAt (s.course jobs before) t := by
  induction ts generalizing s with
  | nil => exact absurd hEnd hs
  | cons t ts ih =>
      by_cases hNext : P (s.turn jobs t)
      · exact ⟨[], t, ts, rfl, hs, hNext, h.1⟩
      · obtain ⟨before, u, after, rfl, hBefore, hAt, hRule⟩ := ih h.2 hNext hEnd
        exact ⟨t :: before, u, after, rfl, hBefore, hAt, hRule⟩

end Follows

end FaultBench.Bench

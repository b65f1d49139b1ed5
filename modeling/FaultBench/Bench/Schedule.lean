import FaultBench.Bench.State

/-!
# Schedules

The schedule of a bench says which task is polled next and when time passes: the first task that
would get on is polled, and time passes only where there is none, to the next moment at which
something happens. A bench may be stopped from outside at a given time.
-/

namespace FaultBench.Bench.State

/-- When the job of a task in flight replies. -/
def due? (b : Behaviour) : Phase → Option Nat
  | .running t => some (t + b.delayMs)
  | _ => none

/-- The first task that would get on. -/
def ready? (jobs : List Behaviour) (s : State) : Option Nat :=
  (jobs.zip s.tasks).findIdx? fun (b, p) => s.isReady b p

/-- The times at which something happens by itself. -/
def moments (jobs : List Behaviour) (cancelAt : Option Nat) (s : State) : List Nat :=
  (if s.cancelled then [] else cancelAt.toList) ++
    (jobs.zip s.tasks).filterMap fun (b, p) => due? b p

/-- It gets `t`. -/
def advance (cancelAt : Option Nat) (s : State) (t : Nat) : State :=
  { s with now := t, cancelled := s.cancelled || cancelAt == some t }

/-- What happens next, unless all tasks have ended. -/
def next? (jobs : List Behaviour) (cancelAt : Option Nat) (s : State) : Option State :=
  match s.ready? jobs with
  | some i => some (s.poll jobs i)
  | none => if s.isDone then none else ((s.moments jobs cancelAt).min?).map (s.advance cancelAt)

/-- What a bench comes to in at most the given number of steps. -/
def steps (jobs : List Behaviour) (cancelAt : Option Nat) : Nat → State → State
  | 0, s => s
  | n + 1, s =>
    match s.next? jobs cancelAt with
    | some s' => steps jobs cancelAt n s'
    | none => s

/-- A task is polled three times at most, and time passes for its reply and for the stop. -/
def enough (jobs : List Behaviour) : Nat := 4 * jobs.length + 2

/-- The end of a bench that runs the given jobs. -/
def ofJobs (jobs : List Behaviour) (permits : Nat) (cancelAt : Option Nat) : State :=
  steps jobs cancelAt (enough jobs) (initial permits jobs.length)

end FaultBench.Bench.State

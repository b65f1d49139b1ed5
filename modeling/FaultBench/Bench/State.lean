import FaultBench.Bench.Job

/-!
# Benches

A bench runs the jobs of a list, each in a task of its own, and not more of them at a time than it
has permits. A task asks for a permit, waits in a queue where none is free, starts its job, and gives
the permit on when the job has replied. Once the bench is stopped, from outside or by a fatal reply,
no task starts its job, and a task whose job is in flight drops it.

`State.poll` lets one task go as far as it gets without waiting. Nothing is said here on the order in
which tasks are polled, or on how time passes between two polls.
-/

namespace FaultBench.Bench

/-- How a task ended. -/
inductive Ending
  /-- Its job was not started. -/
  | skipped
  /-- Its job was dropped before it replied. -/
  | dropped (start stop : Nat)
  | replied (start stop : Nat) (reply : Reply)

/-- What is recorded for the kind of a task that ended. -/
def Ending.toOutcome (kind : KindId) : Ending → Outcome
  | .skipped => .error (.cancelled kind)
  | .dropped .. => .error (.cancelled kind)
  | .replied _ _ r => r.toOutcome kind

/-- How far a task has come. -/
inductive Phase
  /-- It was not polled yet. -/
  | fresh
  /-- It is in the queue. -/
  | queued
  /-- It has got a permit, and does not know yet. -/
  | admitted
  /-- Its job is in flight. -/
  | running (start : Nat)
  | ended (e : Ending)

namespace Phase

/-- The task has a permit. -/
def holds : Phase → Bool
  | .admitted | .running _ => true
  | _ => false

def isRunning : Phase → Bool
  | .running _ => true
  | _ => false

def isEnded : Phase → Bool
  | .ended _ => true
  | _ => false

def ending? : Phase → Option Ending
  | .ended e => some e
  | _ => none

end Phase

structure State where
  now : Nat
  /-- How many permits no task has. -/
  free : Nat
  /-- The tasks that wait for a permit, the next one first. -/
  queue : List Nat
  /-- The bench was stopped from outside. -/
  cancelled : Bool
  /-- The bench was stopped by a fatal reply. -/
  aborted : Bool
  tasks : List Phase
  /-- The most jobs that were in flight at a time. -/
  peak : Nat

/-- The most permits that a bench can have: the greatest machine word, less its last three bits. -/
def maxPermits : Nat := (UInt64.size - 1) >>> 3

/-- What is said where a bench is asked for with more permits than that. -/
def tooManyPermits : String :=
  s!"a semaphore may not have more than MAX_PERMITS permits ({maxPermits})"

namespace State

/-- A bench with the given numbers of permits and of tasks. No bench is set up with more than
`maxPermits`: that is for the session to see to. -/
def initial (permits tasks : Nat) : State where
  now := 0
  free := permits
  queue := []
  cancelled := false
  aborted := false
  tasks := List.replicate tasks .fresh
  peak := 0

def stopping (s : State) : Bool := s.cancelled || s.aborted

def inFlight (s : State) : Nat := s.tasks.countP Phase.isRunning

def isDone (s : State) : Bool := s.tasks.all Phase.isEnded

def setPhase (s : State) (i : Nat) (p : Phase) : State := { s with tasks := s.tasks.set i p }

/-- Passes a permit on to the first task in the queue. -/
def release (s : State) : State :=
  match s.queue with
  | [] => { s with free := s.free + 1 }
  | j :: rest => { s with queue := rest }.setPhase j .admitted

/-- Ends a task that has a permit. -/
def finish (s : State) (i : Nat) (e : Ending) : State := (s.setPhase i (.ended e)).release

/-- The job of a task replies. -/
def receive (s : State) (i start : Nat) (r : Reply) : State :=
  { s with aborted := s.aborted || r.isFatal }.finish i (.replied start s.now r)

/-- A task that has a permit starts its job. A job without delay replies at once. -/
def start (s : State) (i : Nat) (b : Behaviour) : State :=
  let s := s.setPhase i (.running s.now)
  let s := { s with peak := max s.peak s.inFlight }
  if b.delayMs = 0 then s.receive i s.now b.reply else s

/-- A task that has a permit goes on. -/
def enter (s : State) (i : Nat) (b : Behaviour) : State :=
  if s.stopping then s.finish i .skipped else s.start i b

/-- A task asks for a permit. -/
def acquire (s : State) (i : Nat) (b : Behaviour) : State :=
  if s.free = 0 then { s with queue := s.queue ++ [i] }.setPhase i .queued
  else { s with free := s.free - 1 }.enter i b

/-- A task looks after its job. That the bench is stopped counts before a reply does. -/
def attend (s : State) (i start : Nat) (b : Behaviour) : State :=
  if s.stopping then s.finish i (.dropped start s.now)
  else if start + b.delayMs ≤ s.now then s.receive i start b.reply
  else s

/-- Task `i` goes as far as it gets. -/
def poll (jobs : List Behaviour) (s : State) (i : Nat) : State :=
  match jobs[i]?, s.tasks[i]? with
  | some b, some .fresh => s.acquire i b
  | some b, some .admitted => s.enter i b
  | some b, some (.running t) => s.attend i t b
  | _, _ => s

/-- A task of the given phase would get on if it was polled. -/
def isReady (s : State) (b : Behaviour) : Phase → Bool
  | .fresh | .admitted => true
  | .running t => s.stopping || t + b.delayMs ≤ s.now
  | .queued | .ended _ => false

end State

end FaultBench.Bench

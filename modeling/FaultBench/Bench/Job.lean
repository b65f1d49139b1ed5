import FaultBench.Run

/-!
# Jobs

A job compiles and runs one program. For a bench that runs many of them, a job is how long it takes
and what it ends with.
-/

namespace FaultBench.Bench

/-- What a job ends with. -/
inductive Reply
  | outcome (o : Outcome)
  /-- The job broke down and left a message. -/
  | panic (message : String)

namespace Reply

/-- After a fatal reply no other job can succeed. -/
def isFatal : Reply → Bool
  | .outcome (.error e) => e.isFatal
  | _ => false

/-- The number of a task tells nothing, so it is not shown. -/
def breakdown (message : String) : String :=
  "run task failed: task <N> panicked with message " ++ Text.quote message

/-- What is recorded for the kind of the job. -/
def toOutcome (kind : KindId) : Reply → Outcome
  | .outcome o => o
  | .panic message => .error (.internal kind (breakdown message))

end Reply

structure Behaviour where
  delayMs : Nat
  reply : Reply

/-- What compiles and runs programs. -/
structure Oracle where
  /-- Why no program can be compiled or run at all. -/
  unavailable : Option RunError
  behaviour : Program → Behaviour

end FaultBench.Bench

import FaultBench.Data.Datum
import FaultBench.Report

/-!
# Events

What is recorded while kinds are run: the start, each verdict, and the end.
-/

namespace FaultBench

/-- How important a record is. -/
inductive Level
  | error
  | warn
  | info
  | debug
  | trace
  deriving DecidableEq, Repr

namespace Level

def all : List Level := [.error, .warn, .info, .debug, .trace]

def name : Level → String
  | .error => "error"
  | .warn => "warn"
  | .info => "info"
  | .debug => "debug"
  | .trace => "trace"

/-- From 1 for errors up. -/
def number : Level → Nat
  | .error => 1
  | .warn => 2
  | .info => 3
  | .debug => 4
  | .trace => 5

end Level

inductive Event
  | started (kinds parallelism : Nat)
  | kindFinished (kind : KindId) (status : String) (durationMs : Nat)
  | finished (summary : Summary) (durationMs : Nat) (success : Bool)
  | aborted (reason : String)
  deriving DecidableEq

namespace Event

def ofVerdict (v : Verdict) : Event := .kindFinished v.kind v.status.label (v.durationMs.getD 0)

def ofReport (r : Report) (durationMs : Nat) : Event := .finished r.summary durationMs r.allPassed

def name : Event → String
  | .started .. => "corpus.started"
  | .kindFinished .. => "kind.finished"
  | .finished .. => "corpus.finished"
  | .aborted .. => "corpus.aborted"

def level : Event → Level
  | .aborted .. => .warn
  | _ => .info

/-- The fields of an event of the run with the given id. -/
def toFields (runId : String) (e : Event) : List (String × Datum) :=
  [("event", .text e.name), ("run_id", .text runId)] ++
  match e with
  | .started kinds parallelism => [("kinds", .nat kinds), ("parallelism", .nat parallelism)]
  | .kindFinished kind status ms =>
    [("kind", .text kind.text), ("status", .text status), ("duration_ms", .nat ms)]
  | .finished s ms success =>
    [("total", .nat s.total), ("passed", .nat s.passed), ("failed", .nat s.failed),
      ("errored", .nat s.errored), ("duration_ms", .nat ms), ("success", .bool success)]
  | .aborted reason => [("reason", .text reason)]

end Event

end FaultBench

import FaultBench.Time
import FaultBench.Uuid
import FaultBench.Verdict

/-!
# Reports

The result of a run of kinds: a verdict on each, in the order of the catalog, and their counts.
-/

namespace FaultBench

/-- How many verdicts there are, in all and of each status. -/
structure Summary where
  total : Nat
  passed : Nat
  failed : Nat
  errored : Nat
  deriving DecidableEq, Repr

/-- What tells a report from others. -/
structure Report.Head where
  runId : Uuid
  generatedAt : Time
  deriving DecidableEq, Repr

structure Report where
  head : Report.Head
  verdicts : List Verdict
  summary : Summary
  /-- Why the run was ended early. -/
  aborted : Option String
  deriving DecidableEq

namespace Summary

def ofVerdicts (vs : List Verdict) : Summary where
  total := vs.length
  passed := vs.countP (·.passed)
  failed := vs.countP (·.status.isFail)
  errored := vs.countP (·.status.isError)

end Summary

namespace Report

def ofVerdicts (head : Head) (vs : List Verdict) (aborted : Option String) : Report :=
  ⟨head, vs, .ofVerdicts vs, aborted⟩

/-- Every kind passed, and the run came to its end. -/
def allPassed (r : Report) : Bool := r.aborted.isNone && r.summary.passed == r.summary.total

/-- 0 if all passed, 2 if the run was ended early, and else 1. -/
def exitCode (r : Report) : Nat :=
  if r.aborted.isSome then 2 else if r.allPassed then 0 else 1

/-- The first verdict on a kind. -/
def get? (r : Report) (kind : String) : Option Verdict := r.verdicts.find? (·.kind.text == kind)

def kinds (r : Report) : List KindId := r.verdicts.map (·.kind)

end Report

end FaultBench

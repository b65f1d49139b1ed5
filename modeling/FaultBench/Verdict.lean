import FaultBench.Kind
import FaultBench.RunError

/-!
# Verdicts

What a run of a kind's program showed: the expected signature, something else, or an error.
-/

namespace FaultBench

inductive Status
  /-- The signature was found. -/
  | pass
  /-- The program was run, and the signature was not found. -/
  | fail
  /-- The signature could not be looked for. -/
  | error (category : ErrorCategory) (message : String)
  deriving DecidableEq, Repr

namespace Status

def label : Status → String
  | .pass => "pass"
  | .fail => "fail"
  | .error .. => "error"

def isPass : Status → Bool
  | .pass => true
  | _ => false

def isFail : Status → Bool
  | .fail => true
  | _ => false

def isError : Status → Bool
  | .error .. => true
  | _ => false

end Status

structure Verdict where
  kind : KindId
  faultClass : FaultClass
  status : Status
  expected : String
  matchMode : MatchMode
  /-- What the tool reported. -/
  observed : Option String := none
  exitCode : Option Int := none
  durationMs : Option Nat := none
  programDigest : Option String := none
  deriving DecidableEq

def Verdict.passed (v : Verdict) : Bool := v.status.isPass

end FaultBench

import FaultBench.Kind.Id

/-!
# Errors of runs

What can go wrong when a program is compiled and run. Such an error is recorded for its kind and
does not stop the others, unless it is fatal.
-/

namespace FaultBench

/-- The kind of error that a verdict shows. -/
inductive ErrorCategory
  | compile
  | timeout
  | toolUnavailable
  | workspace
  | cancelled
  | internal
  /-- Nothing was recorded for a kind. -/
  | missing
  /-- The signature of a kind cannot be looked for. -/
  | signature
  deriving DecidableEq, Repr

namespace ErrorCategory

def all : List ErrorCategory :=
  [.compile, .timeout, .toolUnavailable, .workspace, .cancelled, .internal, .missing, .signature]

def name : ErrorCategory → String
  | .compile => "compile"
  | .timeout => "timeout"
  | .toolUnavailable => "tool_unavailable"
  | .workspace => "workspace"
  | .cancelled => "cancelled"
  | .internal => "internal"
  | .missing => "missing"
  | .signature => "signature"

instance : ToString ErrorCategory := ⟨name⟩

end ErrorCategory

inductive RunError
  | compile (kind : KindId) (detail : String) (diagnostics : List String)
  | timeout (kind : KindId) (elapsedMs limitMs : Nat)
  /-- No program can be compiled or run at all. -/
  | toolUnavailable (tool reason : String)
  | workspace (kind : KindId) (reason : String)
  | cancelled (kind : KindId)
  | internal (kind : KindId) (reason : String)
  deriving DecidableEq

namespace RunError

def category : RunError → ErrorCategory
  | .compile .. => .compile
  | .timeout .. => .timeout
  | .toolUnavailable .. => .toolUnavailable
  | .workspace .. => .workspace
  | .cancelled .. => .cancelled
  | .internal .. => .internal

/-- The error concerns all kinds and ends the whole run. -/
def isFatal : RunError → Bool
  | .toolUnavailable .. => true
  | _ => false

def isCancelled : RunError → Bool
  | .cancelled .. => true
  | _ => false

/-- How many diagnostics a message shows. -/
def shownDiagnostics : Nat := 3

/-- The first diagnostics, and how many more there are. -/
def causes (diagnostics : List String) : String :=
  if diagnostics.isEmpty then ""
  else
    let shown := ": " ++ "; ".intercalate (diagnostics.take shownDiagnostics)
    let more := diagnostics.length - shownDiagnostics
    if more = 0 then shown else s!"{shown} (+{more} more)"

def message : RunError → String
  | .compile kind detail diagnostics =>
    s!"{kind}: program failed to compile: {detail}{causes diagnostics}"
  | .timeout kind elapsed limit => s!"{kind}: execution timed out after {elapsed}ms (limit {limit}ms)"
  | .toolUnavailable tool reason => s!"tool unavailable: {tool}: {reason}"
  | .workspace kind reason => s!"{kind}: workspace error: {reason}"
  | .cancelled kind => s!"{kind}: run cancelled"
  | .internal kind reason => s!"{kind}: internal error: {reason}"

end RunError

end FaultBench

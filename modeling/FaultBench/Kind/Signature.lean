import FaultBench.Pattern.Reader
import FaultBench.Text.Quoted

/-!
# Signatures

The signature of a kind is what the tool's report must hold for the kind to pass: a text, or
something that a pattern describes.
-/

namespace FaultBench

/-- How a signature is looked for. -/
inductive MatchMode
  | substring
  | regex
  deriving DecidableEq, Repr

def MatchMode.name : MatchMode → String
  | .substring => "substring"
  | .regex => "regex"

structure Signature where
  pattern : String
  mode : MatchMode := .substring
  deriving DecidableEq, Repr

/-- Why a signature cannot be looked for. -/
inductive SignatureFlaw
  | empty
  | pattern (flaw : PatternFlaw)
  deriving DecidableEq, Repr

def SignatureFlaw.message : SignatureFlaw → String
  | .empty => "pattern must not be empty"
  | .pattern flaw => flaw.message

namespace Signature

/-- The flaw of a signature, if it has one. -/
def flaw? (s : Signature) : Option SignatureFlaw :=
  if s.pattern = "" then some .empty
  else match s.mode with
    | .substring => none
    | .regex => match Pattern.read s.pattern.toList with
      | .ok _ => none
      | .error flaw => some (.pattern flaw)

/-- The signature as it is listed: a quoted text, or a pattern between slashes. -/
def describe (s : Signature) : String :=
  match s.mode with
  | .substring => Text.quote s.pattern
  | .regex => "/" ++ s.pattern ++ "/"

end Signature

end FaultBench

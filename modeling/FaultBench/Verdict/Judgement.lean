import FaultBench.Catalog
import FaultBench.Diagnostic.Sanitizer
import FaultBench.Report
import FaultBench.Run
import FaultBench.Text.Search

/-!
# Judging runs

`Verifier.judge` compares what a run reported with the signature of its kind. It never fails: what
keeps a kind from being judged is part of its verdict.
-/

namespace FaultBench

/-- How signatures are looked for, where it is not left to each of them. -/
structure Verifier where
  override : Option MatchMode := none
  deriving DecidableEq, Repr

/-- The place where a signature begins first. -/
def MatchMode.find (mode : MatchMode) (pattern text : List Char) :
    Except PatternFlaw (Option Nat) :=
  match mode with
  | .substring => .ok (Text.find? pattern text)
  | .regex => (Pattern.read pattern).map (·.find? text)

/-- The outcomes of runs, each under the id of its kind. -/
abbrev Outcomes := List (KindId × Outcome)

namespace Verifier

/-- The verdict on a kind before anything is known of its run. -/
def blank (v : Verifier) (k : Kind) : Verdict where
  kind := k.id
  faultClass := k.faultClass
  status := .fail
  expected := k.signature.pattern
  matchMode := v.override.getD k.signature.mode

/-- The verdict on a kind whose program ran. -/
def judgeRun (v : Verifier) (k : Kind) (r : Run) : Verdict :=
  let known := { v.blank k with
    exitCode := r.exitCode
    durationMs := some r.durationMs
    programDigest := some r.program.digest }
  let text := r.diagnosticText
  match known.matchMode.find k.signature.pattern.toList text with
  | .ok (some i) =>
    { known with status := .pass, observed := some (String.ofList (snippet (Text.lineAt text i))) }
  | .ok none => { known with observed := (describeObserved text).map String.ofList }
  | .error flaw => { known with status := .error .signature ("invalid regex: " ++ flaw.message) }

/-- The verdict on a kind, given how its run ended. -/
def judge (v : Verifier) (k : Kind) (outcome : Option Outcome) : Verdict :=
  match outcome with
  | none => { v.blank k with status := .error .missing "no run outcome recorded" }
  | some (.error e) => { v.blank k with status := .error e.category e.message }
  | some (.ok r) => v.judgeRun k r

/-- The verdicts on a selection of kinds, in its order. -/
def verdicts (v : Verifier) (selection : List Kind) (outcomes : Outcomes) : List Verdict :=
  selection.map fun k => v.judge k (outcomes.lookup k.id)

/-- The report on a selection of kinds. -/
def verifySelection (v : Verifier) (head : Report.Head) (selection : List Kind)
    (outcomes : Outcomes) (aborted : Option String) : Report :=
  .ofVerdicts head (v.verdicts selection outcomes) aborted

/-- The report on the requested kinds of a catalog, or on all if none is requested. Ids that the
catalog does not have are ignored. -/
def verify (v : Verifier) (head : Report.Head) (catalog : Catalog) (requested : List KindId)
    (outcomes : Outcomes) : Report :=
  let selection := catalog.kinds.filter fun k => requested.isEmpty || requested.contains k.id
  v.verifySelection head selection outcomes none

end Verifier

end FaultBench

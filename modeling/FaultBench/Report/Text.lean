import FaultBench.Report

/-!
# Reports as tables of text

One line for each verdict: the kind and the status in columns, and what was found.
-/

namespace FaultBench

/-- A text with blanks behind it up to the given width. -/
def padRight (width : Nat) (s : String) : String :=
  s ++ String.ofList (List.replicate (width - s.length) ' ')

namespace Verdict

/-- What was found, in words. -/
def detail (v : Verdict) : String :=
  match v.status with
  | .pass => s!"matched {Text.quote v.expected}: " ++ v.observed.getD ""
  | .fail =>
    s!"expected {Text.quote v.expected}, observed: " ++ v.observed.getD "<no diagnostic output>"
  | .error category message => s!"[{category}] {message}"

end Verdict

namespace Report

def statusWidth : Nat := 6

/-- The width of the column of kinds. -/
def kindWidth (r : Report) : Nat := r.verdicts.foldl (fun w v => max w v.kind.text.length) 4

/-- A line of the table. -/
def tableLine (width : Nat) (kind status detail : String) : String :=
  padRight width kind ++ "  " ++ padRight statusWidth status ++ "  " ++ detail ++ "\n"

def verdictLine (width : Nat) (v : Verdict) : String :=
  tableLine width v.kind.text v.status.label v.detail

def summaryLine (s : Summary) : String :=
  s!"{s.total} kinds: {s.passed} passed, {s.failed} failed, {s.errored} errored\n"

def text (r : Report) : String :=
  tableLine r.kindWidth "KIND" "STATUS" "DETAIL" ++
    String.join (r.verdicts.map (verdictLine r.kindWidth)) ++
    "\n" ++ summaryLine r.summary ++
    r.aborted.elim "" fun reason => s!"run aborted: {reason}\n"

end Report

end FaultBench

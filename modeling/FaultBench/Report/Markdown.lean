import FaultBench.Report
import FaultBench.Text.Search

/-!
# Reports as Markdown

A list of facts on the run and a table of its verdicts.
-/

namespace FaultBench

namespace Verdict

/-- What was found: the observed text, or the error. -/
def finding (v : Verdict) : String :=
  match v.status with
  | .error category message => s!"{category}: {message}"
  | _ => v.observed.getD ""

/-- A row of the table. A bar in the finding is escaped, so that it does not end its cell. -/
def row (v : Verdict) : String :=
  let finding := Text.substitute (fun c => if c == '|' then ['\\', '|'] else [c]) v.finding
  s!"| `{v.kind}` | {v.status.label} | `{v.expected}` | {finding} |\n"

end Verdict

namespace Report

/-- The lines above the table that say which run this is. -/
def facts (r : Report) : String :=
  s!"- run: `{r.head.runId.text}`\n" ++
    "- generated: " ++ r.head.generatedAt.text "+00:00" ++ "\n" ++
    s!"- passed: {r.summary.passed}/{r.summary.total}\n" ++
    r.aborted.elim "" fun reason => s!"- **aborted**: {reason}\n"

def tableHead : String :=
  "| kind | status | expected | observed |\n|------|--------|----------|----------|\n"

def markdown (r : Report) : String :=
  "# Fault Corpus Report\n\n" ++ r.facts ++ "\n" ++ tableHead ++
    String.join (r.verdicts.map Verdict.row)

end Report

end FaultBench

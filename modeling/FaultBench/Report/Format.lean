import FaultBench.Exchange.Report
import FaultBench.File.Tree
import FaultBench.Report.Markdown
import FaultBench.Report.Text

/-!
# Formats of reports
-/

namespace FaultBench

inductive ReportFormat
  | text
  | json
  | markdown
  deriving DecidableEq, Repr

namespace ReportFormat

def all : List ReportFormat := [.text, .json, .markdown]

def name : ReportFormat → String
  | .text => "text"
  | .json => "json"
  | .markdown => "markdown"

/-- What is said of a report that cannot be written to a file. -/
def failure (path : String) : ReportFormat → String
  | .text => "Failed to write report to " ++ Path.quote path
  | _ => "write " ++ Path.quote path

end ReportFormat

namespace Report

def render (r : Report) : ReportFormat → String
  | .text => r.text
  | .json => r.json
  | .markdown => r.markdown

/-- Writes a report to a file. -/
def save (r : Report) (format : ReportFormat) (path : String) : File.Action Unit :=
  File.Action.writeText path (r.render format)

end Report

end FaultBench

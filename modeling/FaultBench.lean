import FaultBench.Text.Utf8
import FaultBench.Program.Synthesis
import FaultBench.Data.Json.Reader
import FaultBench.Report.Text
import FaultBench.Report.Markdown
import FaultBench.Verdict.Judgement
import FaultBench.Config.Kinds
import FaultBench.Toolchain
import FaultBench.Exchange.Program
import FaultBench.Exchange.Report
import FaultBench.Exchange.Config
import FaultBench.Corpus
import FaultBench.Cancel
import FaultBench.Bench.Session
import FaultBench.Report.Format
import FaultBench.Log.Filter
import FaultBench.Trial
import FaultBench.CommandLine.Response
import FaultBench.Main
import FaultBench.Proofs.Bench.Turns
import FaultBench.Proofs.Bench.Permits
import FaultBench.Proofs.Bench.Phases
import FaultBench.Proofs.Bench.Endings
import FaultBench.Proofs.Bench.Clock
import FaultBench.Proofs.Bench.Completion
import FaultBench.Proofs.Bench.Reasons
import FaultBench.Proofs.Bench.Independence
import FaultBench.Proofs.Bench.FatalReply
import FaultBench.Proofs.Bench.Cancellation
import FaultBench.Proofs.Bench.Agreement
import FaultBench.Proofs.Bench.Handing
import FaultBench.Proofs.Bench.Order
import FaultBench.Proofs.Bench.Accounts
import FaultBench.Proofs.Bench.Deeds
import FaultBench.Proofs.Bench.Finishing
import FaultBench.Proofs.Bench.Refusal
import FaultBench.Proofs.Bench.Lifecycle
import FaultBench.Proofs.Catalog.Registry
import FaultBench.Proofs.Config.Kinds
import FaultBench.Proofs.Verdict.Signatures
import FaultBench.Proofs.Exchange.Stored
import FaultBench.Proofs.Corpus.Failure
import FaultBench.Proofs.Program.Identity
import FaultBench.Proofs.Program.Blocks
import FaultBench.Proofs.Program.Parameters
import FaultBench.Proofs.Verdict.Observed
import FaultBench.Proofs.Diagnostic.Causes
import FaultBench.Proofs.Trial.Outputs
import FaultBench.Proofs.Verdict.Requests
import FaultBench.Proofs.Program.Calls
import FaultBench.Proofs.Program.Overflow
import FaultBench.Proofs.Report.Rows
import FaultBench.Proofs.Config.Patches
import FaultBench.Proofs.CommandLine.Runs
import FaultBench.Proofs.CommandLine.Filters
import FaultBench.Proofs.Diagnostic.Output
import FaultBench.Proofs.Kind.Signature
import FaultBench.Proofs.CommandLine.Overrides

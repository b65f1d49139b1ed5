import FaultBench.CommandLine.Tasks
import FaultBench.Log.Filter

/-!
# Responses

What the program answers to its arguments, and the host that it leaves behind.
-/

namespace FaultBench.CommandLine

structure Response where
  exitCode : Nat
  stdout : String := ""
  /-- What is printed as an error, after the log. -/
  stderr : String := ""
  /-- The log is asked for as JSON. -/
  logJson : Bool := false
  log : List LogRecord := []
  host : Host

def versionText : String := "faultcorpus 0.1.0\n"

def usageText : String := "Usage: faultcorpus [--verbose] [--log-json] COMMAND [OPTIONS]

Commands:
  run-corpus   run programs and verify their reports
  list         list the registered kinds
  synthesize   print the program of one kind
  emit         write programs and a manifest to a directory
  check-tools  tell which tools are found
"

def logVariable : String := "RUST_LOG"

/-- The filter that a variable asks for or, if it does not ask for one, that of a level. -/
def logFilter (env : Environment) (verbose : Bool) : LogFilter :=
  ((env.lookup logVariable).bind LogFilter.ofText?).getD
    (.ofLevel (if verbose then .debug else .info))

def Response.ofArgs (h : Host) (head : Report.Head) (args : List String) : Response :=
  match Request.ofArgs h.env args with
  | .error .version => { exitCode := 0, stdout := versionText, host := h }
  | .error .help => { exitCode := 0, stdout := usageText, host := h }
  | .error .usage => { exitCode := 2, stderr := "error: invalid arguments\n\n" ++ usageText, host := h }
  | .ok q =>
    let (result, p) := (q.task.perform head).run.run { host := h }
    let (code, stderr) := match result with
      | .ok n => (n, "")
      | .error f => (f.exitCode, f.text)
    { exitCode := code
      stdout := p.stdout
      stderr := stderr
      logJson := q.logJson
      log := p.log.filter (logFilter h.env q.verbose).permits
      host := p.host }

end FaultBench.CommandLine

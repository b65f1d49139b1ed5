import FaultBench.CommandLine.Failure
import FaultBench.Host
import FaultBench.Log.Record

/-!
# Doing tasks

A task prints, logs and changes files as it goes, and may fail.
-/

namespace FaultBench.CommandLine

/-- What a task has done so far. -/
structure Progress where
  host : Host
  stdout : String := ""
  log : List LogRecord := []

abbrev TaskM (α : Type) := ExceptT Failure (StateM Progress) α

namespace TaskM

variable {α : Type}

def print (text : String) : TaskM Unit :=
  modify fun p => { p with stdout := p.stdout ++ text }

def note (rs : List LogRecord) : TaskM Unit := modify fun p => { p with log := p.log ++ rs }

/-- Ends the task where the result is an error. -/
def demand (wrap : SetupError → Failure) : Except SetupError α → TaskM α
  | .ok a => pure a
  | .error e => throw (wrap e)

/-- Does something with the files of the host. -/
def onFiles (wrap : IoError → Failure) (a : File.Action α) : TaskM α := do
  let p ← get
  let (result, tree) := a.run.run p.host.tree
  set { p with host := { p.host with tree := tree } }
  match result with
  | .ok a => pure a
  | .error e => throw (wrap e)

end TaskM

end FaultBench.CommandLine

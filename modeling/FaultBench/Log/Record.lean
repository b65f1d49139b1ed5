import FaultBench.Event
import FaultBench.File.Path
import FaultBench.Program
import FaultBench.Toolchain

/-!
# Records of the log

A record tells of one step of the program: how important it is, which part of the program it comes
from, and a message with values.
-/

namespace FaultBench

/-- The part of the program that a record comes from. -/
inductive LogSource
  | command
  | catalog
  | config
  | corpus
  | events
  | synthesis
  | verifier
  | bench
  | trial
  | workspace
  deriving DecidableEq, Repr

/-- The name under which records of a part are chosen. -/
def LogSource.target : LogSource → String
  | .command => "faultcorpus"
  | .catalog => "faultcorpus_core::catalog"
  | .config => "faultcorpus_core::config"
  | .corpus => "faultcorpus_core::emit"
  | .events => "faultcorpus_core::obs"
  | .synthesis => "faultcorpus_core::synth"
  | .verifier => "faultcorpus_core::verifier"
  | .bench => "faultcorpus_oracle::pipeline"
  | .trial => "faultcorpus_oracle::runner"
  | .workspace => "faultcorpus_oracle::workspace"

structure LogRecord where
  level : Level
  source : LogSource
  fields : List (String × Datum)

namespace LogRecord

def ofMessage (level : Level) (source : LogSource) (message : String)
    (values : List (String × Datum)) : LogRecord :=
  ⟨level, source, ("message", .text message) :: values⟩

/-- The record of an event of the run with the given id. -/
def ofEvent (runId : String) (e : Event) : LogRecord := ⟨e.level, .events, e.toFields runId⟩

def registered (k : Kind) : LogRecord :=
  ofMessage .debug .catalog "registered fault kind"
    [("kind", .text k.id.text), ("class", .text k.faultClass.name)]

def loadedConfig (path : String) (c : Config) : LogRecord :=
  ofMessage .debug .config "loaded corpus config"
    [("path", .text (Path.quote path)), ("kinds", .nat c.kinds.length)]

def synthesized (p : Program) : LogRecord :=
  ofMessage .debug .synthesis "synthesized program"
    [("kind", .text p.kind.text), ("digest", .text p.shortDigest)]

def written (p : Program) : LogRecord :=
  ofMessage .info .command "program written"
    [("kind", .text p.kind.text), ("digest", .text p.shortDigest)]

def emitted (dir : String) (ps : List Program) : LogRecord :=
  ofMessage .info .corpus "emitted corpus"
    [("dir", .text (Path.quote dir)), ("programs", .nat ps.length)]

def judged (v : Verdict) : LogRecord :=
  ofMessage .debug .verifier "judged kind"
    [("kind", .text v.kind.text), ("status", .text v.status.label)]

def running (s : RunSettings) : LogRecord :=
  ofMessage .info .command "running corpus"
    [("compiler", .text s.tool.compiler), ("parallelism", .nat s.parallelism)]

def unavailable (reason : String) : LogRecord :=
  ofMessage .warn .bench "toolchain preflight failed" [("error", .text reason)]

def fatal (kind : KindId) (e : RunError) : LogRecord :=
  ofMessage .warn .bench "fatal oracle error, cancelling siblings"
    [("kind", .text kind.text), ("error", .text e.message)]

def finished (kinds : Nat) (aborted : Bool) : LogRecord :=
  ofMessage .info .bench "all runs finished"
    [("kinds", .nat kinds), ("aborted", .bool aborted)]

end LogRecord

end FaultBench

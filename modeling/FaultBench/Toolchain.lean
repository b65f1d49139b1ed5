import FaultBench.Config
import FaultBench.RunError

/-!
# Toolchains

How programs are compiled and run, and how many of them at a time. Times are in milliseconds.
-/

namespace FaultBench

structure Toolchain where
  compiler : String
  flags : List String
  env : Environment
  runWrapper : List String
  timeoutMs : Nat
  compileTimeoutMs : Nat
  maxOutputBytes : Nat
  cpuLimitSecs : Option Nat
  deriving DecidableEq, Repr

namespace Toolchain

def ofSection (s : ToolSection) : Toolchain where
  compiler := s.compiler
  flags := s.flags
  env := s.env
  runWrapper := s.runWrapper
  timeoutMs := 1000 * s.timeoutSecs
  compileTimeoutMs := 1000 * s.compileTimeoutSecs
  maxOutputBytes := s.maxOutputBytes
  cpuLimitSecs := s.cpuLimitSecs

def default : Toolchain := ofSection {}

end Toolchain

/-- The settings of a run of kinds. -/
structure RunSettings where
  parallelism : Nat := 4
  tool : Toolchain
  deriving DecidableEq, Repr

namespace RunSettings

def ofConfig (c : Config) : RunSettings := ⟨c.pipeline.parallelism, .ofSection c.toolchain⟩

/-- How many programs run at a time: one, if none is asked for. -/
def permits (s : RunSettings) : Nat := max s.parallelism 1

end RunSettings

end FaultBench

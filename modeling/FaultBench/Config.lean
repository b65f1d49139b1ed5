import FaultBench.Environment
import FaultBench.SetupError

/-!
# Configurations

How programs are compiled and run, how many of them at a time, and which kinds there are. All of it
has defaults.
-/

namespace FaultBench

/-- How programs are compiled and run. -/
structure ToolSection where
  compiler : String := "clang"
  flags : List String := ["-std=c11", "-O0", "-g", "-fno-omit-frame-pointer", "-fsanitize=address",
    "-fsanitize-address-use-after-scope", "-fdiagnostics-color=never"]
  /-- Variables that are set for a program that runs. -/
  env : Environment := [("ASAN_OPTIONS", "detect_leaks=1:color=never")]
  /-- A command, with its arguments, that runs programs. -/
  runWrapper : List String := []
  timeoutSecs : Nat := 10
  compileTimeoutSecs : Nat := 60
  /-- How much is kept of an output. -/
  maxOutputBytes : Nat := 1048576
  cpuLimitSecs : Option Nat := some 30
  deriving DecidableEq, Repr

structure PipelineSection where
  /-- How many programs run at a time. -/
  parallelism : Nat := 4
  deriving DecidableEq, Repr

/-- A kind of its own, or changes to a built-in one. -/
structure KindEntry where
  id : String
  faultClass : Option FaultClass := none
  signature : Option String := none
  matchMode : Option MatchMode := none
  variant : VariantPatch := {}
  deriving DecidableEq, Repr

structure Config where
  toolchain : ToolSection := {}
  pipeline : PipelineSection := {}
  /-- The built-in kinds are among the kinds. -/
  builtinKinds : Bool := true
  kinds : List KindEntry := []
  deriving DecidableEq, Repr

namespace Config

/-- What a configuration asks for that it must not. -/
def flaw? (c : Config) : Option ConfigFlaw :=
  if Text.isBlankText c.toolchain.compiler.toList then some .emptyCompiler
  else if c.toolchain.timeoutSecs = 0 then some .zeroTimeout
  else if c.toolchain.compileTimeoutSecs = 0 then some .zeroCompileTimeout
  else if c.toolchain.maxOutputBytes = 0 then some .zeroOutput
  else if c.pipeline.parallelism = 0 then some .zeroParallelism
  else if !c.builtinKinds && c.kinds.isEmpty then some .noKinds
  else none

/-- The configuration itself, where it has no flaw. -/
def validated (c : Config) : Except SetupError Config :=
  match c.flaw? with
  | some flaw => .error (.config flaw)
  | none => .ok c

end Config

end FaultBench

import FaultBench.Program
import FaultBench.RunError

/-!
# Runs

What a program did when it was run.
-/

namespace FaultBench

structure Run where
  program : Program
  /-- Nothing, if a signal ended the program. -/
  exitCode : Option Int
  signal : Option Int
  stdout : String
  stderr : String
  /-- What the compiler reported on a program that it compiled. -/
  compileStderr : String
  durationMs : Nat
  /-- An output was longer than what was kept of it. -/
  truncated : Bool
  deriving DecidableEq

/-- How the run of one program ended. -/
abbrev Outcome := Except RunError Run

namespace Run

/-- What a signature is looked for in: the errors, and then the output on a line of its own. -/
def diagnosticText (r : Run) : List Char :=
  let errors := r.stderr.toList
  let output := r.stdout.toList
  if errors.isEmpty || output.isEmpty || errors.getLast? == some '\n' then errors ++ output
  else errors ++ '\n' :: output

end Run

end FaultBench

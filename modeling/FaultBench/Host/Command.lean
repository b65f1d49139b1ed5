import FaultBench.Host.Process

/-!
# Commands

What an executable file does when it is run, given in advance: a script says what a process prints,
how long it takes and how it ends. A compiler follows a script too, and leaves a program that follows
another one.
-/

namespace FaultBench

/-- A process that another one leaves behind. -/
inductive Straggler
  /-- It holds the outputs of the other one open. -/
  | holding
  | detached
  deriving DecidableEq, Repr

structure Script where
  stdout : List UInt8 := []
  stderr : List UInt8 := []
  /-- Variables that are printed with their values. -/
  shownVariables : List String := []
  straggler : Option Straggler := none
  sleepMs : Nat := 0
  status : ExitStatus := .code 0

namespace Script

/-- How long a process lives that was left behind. -/
def stragglerMs : Nat := 20000

/-- The line that shows a variable. -/
def variableLine (env : Environment) (name : String) : String :=
  name ++ "=" ++ (env.lookup name).getD "<unset>" ++ "\n"

/-- What a process does that follows the script. -/
def play (s : Script) (env : Environment) : Activity where
  stdout := s.stdout ++ s.shownVariables.flatMap fun v => (variableLine env v).toUTF8.toList
  stderr := s.stderr
  status := s.status
  tookMs := if s.straggler = some .holding then max s.sleepMs stragglerMs else s.sleepMs

end Script

/-- What a compiler leaves where it was asked to put a program. -/
inductive Product
  | program
  | nothing
  /-- A file that may not be run. -/
  | data
  /-- A file that asks to be run by itself. -/
  | loop
  deriving DecidableEq, Repr

/-- What a compiler does with a source. -/
structure Compilation where
  script : Script := {}
  product : Product := .program
  /-- What the program does that it makes. -/
  program : Script := {}

inductive Command
  | program (s : Script)
  | loop
  /-- A compiler has a way with sources of certain names, and another one with all others. Asked for
  its version, it follows a script of its own. -/
  | compiler (known : List (String × Compilation)) (other : Compilation) (version : Option Script)
  /-- A wrapper prints its arguments, and then becomes what the last one of them names. -/
  | wrapper

end FaultBench

import FaultBench.SetupError
import FaultBench.Text.Search

/-!
# Failures

Why a task was not done: what failed, and then the causes, each of which is the cause of the one
before it. A task can also break down, and then the program ends as programs do that break down.
-/

namespace FaultBench.CommandLine

inductive Failure
  | error (top : String) (causes : List String)
  /-- The task broke down and left a message. -/
  | panic (message : String)
  deriving DecidableEq, Repr

namespace Failure

/-- The causes that an error stands for. A failure of the system, and a mistake in the writing of a
configuration, have a cause of their own. -/
def chain (e : SetupError) : List String :=
  e.message :: match e with
    | .io io => [io.message]
    | .malformedConfig => [SetupError.malformedConfigDetail]
    | _ => []

/-- An error by itself. -/
def ofSetup (e : SetupError) : Failure := .error e.message ((chain e).drop 1)

/-- Something that failed because of an error. -/
def because (top : String) (e : SetupError) : Failure := .error top (chain e)

/-- A text whose further lines are set in. -/
def indented (first more text : String) : String :=
  first ++ ("\n" ++ more).intercalate ((Text.splitOn '\n' text.toList).map String.ofList) ++ "\n"

/-- A number in a column of five characters. -/
def numberColumn (n : Nat) : String :=
  let digits := toString n
  String.ofList (List.replicate (5 - digits.length) ' ') ++ digits ++ ": "

/-- What is shown of causes. Several of them are numbered. -/
def listed : List String → String
  | [] => ""
  | [cause] => "\nCaused by:\n" ++ indented "    " "    " cause
  | causes => "\nCaused by:\n" ++ String.join
      (causes.zipIdx.map fun (cause, i) => indented (numberColumn i) "       " cause)

/-- What is shown of a failure. Of one that broke down the place in the code is left out. -/
def text : Failure → String
  | .error top causes => "Error: " ++ top ++ "\n" ++ listed causes
  | .panic message => "panicked:\n" ++ message ++ "\n"

def exitCode : Failure → Nat
  | .error .. => 1
  | .panic _ => 101

end Failure

end FaultBench.CommandLine

import FaultBench.File.Tree
import FaultBench.Text.Blank
import FaultBench.Toolchain

/-!
# Searching for tools

A tool is given by a name, which is searched for in the directories of `PATH`, or by a path.
-/

namespace FaultBench

/-- Where the tools of a toolchain are. -/
structure Tools where
  compiler : String
  wrapper : Option String
  deriving DecidableEq, Repr

namespace Tools

/-- The directories in which names are searched for. Without `PATH` there is one without a name. -/
def searchPath (env : Environment) : List String :=
  (Text.splitOn ':' ((env.lookup "PATH").getD "").toList).map String.ofList

/-- Where the tool of a name is. -/
def find (t : File.Tree) (env : Environment) (name : String) : Except RunError String :=
  if Text.isBlankText name.toList then .error (.toolUnavailable name "empty executable name")
  else if 1 < (Path.components name).length then
    if t.isExecutable name then .ok name
    else .error (.toolUnavailable name "executable not found")
  else match ((searchPath env).map (Path.join · name)).find? t.isExecutable with
    | some path => .ok path
    | none => .error (.toolUnavailable name "executable not found on PATH")

end Tools

/-- Finds the compiler of a toolchain, and then its wrapper, if it has one. -/
def Toolchain.search (c : Toolchain) (t : File.Tree) (env : Environment) :
    Except RunError Tools := do
  let compiler ← Tools.find t env c.compiler
  let wrapper ← c.runWrapper.head?.mapM (Tools.find t env)
  return ⟨compiler, wrapper⟩

end FaultBench

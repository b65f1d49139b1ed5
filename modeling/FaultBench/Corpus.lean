import FaultBench.Data.Json.Writer
import FaultBench.Exchange.Program
import FaultBench.File.Tree

/-!
# Corpora in files

A corpus is a directory that holds the source of each program in a directory of its own, and a
manifest. The manifest is written last.
-/

namespace FaultBench.Corpus

open File

/-- The directory of a program. -/
def programDirectory (dir : String) (p : Program) : String := Path.join dir p.kind.text

/-- The file of a program. -/
def programFile (dir : String) (p : Program) : String :=
  Path.join (programDirectory dir p) p.fileName

def manifestFile (dir : String) : String := Path.join dir "manifest.json"

def emitProgram (dir : String) (p : Program) : Action Unit := do
  Action.ensureDirectories (programDirectory dir p)
  Action.writeText (programFile dir p) p.source

/-- Writes programs and their manifest below a directory, and gives the path of the manifest. -/
def emit (dir : String) (ps : List Program) : Action String := do
  Action.ensureDirectories dir
  ps.forM (emitProgram dir)
  Action.writeText (manifestFile dir) (Json.write .indented (Manifest.ofPrograms ps).toDatum)
  return manifestFile dir

end FaultBench.Corpus

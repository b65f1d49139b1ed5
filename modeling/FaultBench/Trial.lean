import FaultBench.Bench.Job
import FaultBench.Diagnostic.Compiler
import FaultBench.Host
import FaultBench.Log.Record
import FaultBench.Toolchain.Search

/-!
# Trials

A trial compiles and runs one program on a host, in a workspace of its own that is removed at the
end. Its outcome is what the program did, or why it did not get that far.
-/

namespace FaultBench

/-- What a trial has done so far. -/
structure Trial where
  host : Host
  elapsedMs : Nat
  /-- The compiler that was started. -/
  compiler : Option Invocation
  /-- The program that was started. -/
  program : Option Invocation
  log : List LogRecord

namespace Trial

/-- A step of a trial, which may end it. -/
abbrev Step (α : Type) := ExceptT RunError (StateM Trial) α

def note (r : LogRecord) : Step Unit := modify fun t => { t with log := t.log ++ [r] }

/-- Ends the trial where the result is an error. -/
def demand {α : Type} (r : Except RunError α) : Step α :=
  match r with
  | .ok a => pure a
  | .error e => throw e

/-- Does something with the files of the host. -/
def onFiles {α : Type} (wrap : IoError → RunError) (a : File.Action α) : Step α := do
  let t ← get
  let (result, tree) := a.run.run t.host.tree
  set { t with host := { t.host with tree := tree } }
  demand (result.mapError wrap)

/-! ## Workspaces -/

/-- The directory for files that do not last. -/
def temporary (env : Environment) : String := (env.lookup "TMPDIR").getD "/tmp"

/-- What tells the workspaces of a kind from each other. -/
def workspaceTag : String := "000000"

/-- The workspace of a kind. -/
def workspace (env : Environment) (kind : KindId) : String :=
  Path.join (temporary env) s!"faultcorpus-{kind}-{workspaceTag}"

/-- The file of the source in a workspace. -/
def sourceFile (workspace fileName : String) : String := Path.join workspace fileName

/-- The file of the program in a workspace. -/
def programFile (workspace : String) : String := Path.join workspace "program"

def workspaceReason (path : String) (e : IoError) : String :=
  s!"create temp dir: {e.message} at path {Path.quote path}"

/-- Creates the workspace of a kind. -/
def createWorkspace (kind : KindId) : Step String := do
  let path := workspace (← get).host.env kind
  onFiles (fun e => .workspace kind (workspaceReason path e))
    (File.Action.change (·.createDirectory path))
  note (.ofMessage .debug .workspace "created workspace"
    [("kind", .text kind.text), ("dir", .text (Path.quote path))])
  return path

/-- The place of a directory that is there. -/
def location (t : File.Tree) (path : String) : File.Location :=
  match t.target path with
  | .ok (.directory l) => l
  | .ok (.name parent name _) => parent ++ [name]
  | .error _ => []

/-- Removes a workspace with all that is in it. -/
def removeWorkspace (path : String) (t : Trial) : Trial :=
  let l := location t.host.tree path
  { t with host := { t.host with tree := t.host.tree.remove l } }

/-! ## Processes -/

/-- Why a process could not be started. A tool that is missing is missing for all programs. -/
def startError (kind : KindId) (path : String) : IoError → RunError
  | .notFound => .toolUnavailable path IoError.notFound.message
  | .permissionDenied => .toolUnavailable path IoError.permissionDenied.message
  | e => .internal kind s!"spawn {path}: {e.message}"

/-- Starts a process and waits for it. It gives nothing if it takes too long. -/
def start (kind : KindId) (i : Invocation) (limitMs : Nat) (record : Trial → Trial) :
    Step (Option Activity) := do
  let t ← get
  match t.host.run i (some limitMs) with
  | .error e => throw (startError kind i.program e)
  | .ok (activity, host) =>
    let tookMs := (activity.map (·.tookMs)).getD limitMs
    set (record { t with host := host, elapsedMs := t.elapsedMs + tookMs })
    return activity

/-- Compiles a source, and gives what the compiler said of it. -/
def compile (c : Toolchain) (compiler : String) (p : Program) (workspace : String) : Step String := do
  let t ← get
  let i : Invocation := {
    program := compiler
    args := c.flags ++ ["-o", programFile workspace, sourceFile workspace p.fileName]
    env := t.host.env
    directory := location t.host.tree workspace }
  match ← start p.kind i c.compileTimeoutMs fun t => { t with compiler := some i } with
  | none =>
    throw (.compile p.kind s!"compiler timed out after {c.compileTimeoutMs / 1000} seconds" [])
  | some a =>
    if a.status.isSuccess then return textOf a.stderr
    else do
      let causes := Diagnostic.causes (textOf a.stderr).toList
      note (.ofMessage .warn .trial "compilation failed"
        [("kind", .text p.kind.text), ("status", .text a.status.text), ("errors", .nat causes.length)])
      throw (.compile p.kind ("compiler " ++ a.status.fate) causes)

/-- Writes the source of a program into a workspace and compiles it there. -/
def build (c : Toolchain) (tools : Tools) (p : Program) (workspace : String) : Step String := do
  let source := sourceFile workspace p.fileName
  onFiles (fun e => .workspace p.kind s!"write {Path.quote source}: {e.message}")
    (File.Action.writeText source p.source)
  compile c tools.compiler p workspace

/-- The command line that runs a program. -/
def commandLine (c : Toolchain) (tools : Tools) (workspace : String) : String × List String :=
  match tools.wrapper with
  | some w => (w, c.runWrapper.drop 1 ++ [programFile workspace])
  | none => (programFile workspace, [])

/-- The process that runs a program on a host. -/
def programProcess (c : Toolchain) (tools : Tools) (workspace : String) (h : Host) : Invocation where
  program := (commandLine c tools workspace).1
  args := (commandLine c tools workspace).2
  env := c.env.foldl (fun env kv => env.insert kv.1 kv.2) h.env
  directory := location h.tree workspace

/-- Runs a program that was compiled. -/
def execute (c : Toolchain) (tools : Tools) (p : Program) (workspace : String) : Step Run := do
  let i := programProcess c tools workspace (← get).host
  match ← start p.kind i c.timeoutMs fun t => { t with program := some i } with
  | none =>
    note (.ofMessage .warn .trial "execution timed out, process group killed"
      [("kind", .text p.kind.text), ("elapsed_ms", .nat c.timeoutMs)])
    throw (.timeout p.kind c.timeoutMs c.timeoutMs)
  | some a =>
    let stdout := Capture.ofOutput c.maxOutputBytes a.stdout
    let stderr := Capture.ofOutput c.maxOutputBytes a.stderr
    return {
      program := p
      exitCode := a.status.code?.map Int.ofNat
      signal := a.status.signal?.map Int.ofNat
      stdout := textOf stdout.kept
      stderr := textOf stderr.kept
      compileStderr := ""
      durationMs := a.tookMs
      truncated := stdout.cut || stderr.cut }

/-- A number that may be missing, as the log shows it. -/
def shown : Option Int → String
  | some n => s!"Some({n})"
  | none => "None"

/-- What is done in a workspace. -/
def inWorkspace (c : Toolchain) (tools : Tools) (p : Program) (workspace : String) : Step Run := do
  let said ← build c tools p workspace
  let run ← execute c tools p workspace
  note (.ofMessage .info .trial "program executed"
    [("kind", .text p.kind.text), ("exit_code", .text (shown run.exitCode)),
      ("signal", .text (shown run.signal)), ("duration_ms", .nat run.durationMs)])
  return { run with compileStderr := said }

/-- Compiles and runs a program. -/
def steps (c : Toolchain) (p : Program) : Step Run := do
  let host := (← get).host
  let tools ← demand (c.search host.tree host.env)
  let workspace ← createWorkspace p.kind
  let (result, t) := (inWorkspace c tools p workspace).run.run (← get)
  set (removeWorkspace workspace t)
  demand result

/-- The trial of a program, and its outcome. -/
def ofProgram (c : Toolchain) (h : Host) (p : Program) : Outcome × Trial :=
  (steps c p).run.run ⟨h, 0, none, none, []⟩

end Trial

/-- The oracle that tries programs on a host. -/
def Bench.Oracle.ofHost (c : Toolchain) (h : Host) : Bench.Oracle where
  unavailable :=
    match c.search h.tree h.env with
    | .ok _ => none
    | .error e => some e
  behaviour p :=
    let (outcome, t) := Trial.ofProgram c h p
    ⟨t.elapsedMs, .outcome outcome⟩

end FaultBench

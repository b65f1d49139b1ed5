import FaultBench.Bench.Log
import FaultBench.Catalog.Table
import FaultBench.CommandLine.Progress
import FaultBench.CommandLine.Request
import FaultBench.Config.Kinds
import FaultBench.Corpus
import FaultBench.Exchange.Config
import FaultBench.Trial

/-!
# Tasks

What the program does for each kind of request. A task gives the exit code of the program.
-/

namespace FaultBench.CommandLine

open TaskM

/-! ## What tasks share -/

/-- The configuration in a file, or the defaults if there is none. -/
def loadConfig (path : Option String) : TaskM Config := do
  match path with
  | none => return {}
  | some p =>
    let c ← demand (.because ("Failed to load configuration from " ++ Path.quote p))
      (Config.load (← get).host.tree p)
    note [.loadedConfig p c]
    return c

/-- The first kinds, up to one that cannot be registered. -/
def registered (c : Catalog) : List Kind → List Kind
  | [] => []
  | k :: ks =>
    match c.register k with
    | .ok c => k :: registered c ks
    | .error _ => []

def loadCatalog (c : Config) : TaskM Catalog := do
  note ((registered .empty (c.kindList.toOption.getD [])).map .registered)
  demand (.because "Failed to build fault catalog") (Catalog.ofConfig c)

/-- The ids in what was given for kinds. Blanks around them do not count. -/
def kindIds (given : List String) : Except Failure (List KindId) :=
  let texts := given.map fun s => String.ofList (Text.trim s.toList)
  (texts.filter (· != "")).mapM fun s =>
    (SetupError.kindId s).mapError (.because s!"Invalid kind id: {s}")

/-- The programs of kinds. Those in front of one that has none are logged. -/
def synthesizeAll (wrap : SetupError → Failure) (ks : List Kind) : TaskM (List Program) := do
  let results := ks.map Kind.synthesizeDefault
  let first := results.takeWhile fun r => r.toOption.isSome
  note (first.filterMap fun r => r.toOption.map .synthesized)
  demand wrap (results.mapM id)

/-- The toolchain of a configuration, with another compiler if one is given. -/
def toolchain (c : Config) (o : ToolOptions) : Toolchain :=
  let tool := Toolchain.ofSection c.toolchain
  { tool with compiler := o.compiler.getD tool.compiler }

/-- The settings of a configuration, with what is given in their place. -/
def settings (c : Config) (o : RunOptions) : RunSettings :=
  let base := RunSettings.ofConfig c
  let tool := toolchain c o.tools
  { parallelism := o.parallelism.getD base.parallelism
    tool := { tool with timeoutMs := (o.timeoutSecs.map (1000 * ·)).getD tool.timeoutMs } }

/-! ## Tasks -/

/-- What is logged once the tools are found. -/
def foundTools (t : Tools) : LogRecord :=
  .ofMessage .debug .trial "toolchain available"
    [("compiler", .text (Path.quote t.compiler)),
      ("wrapper", .text (match t.wrapper with
        | some w => "Some(" ++ Path.quote w ++ ")"
        | none => "None"))]

/-- What is logged of the search for the tools, if it finds them. -/
def searchLog (c : Toolchain) (h : Host) : List LogRecord :=
  match c.search h.tree h.env with
  | .ok tools => [foundTools tools]
  | .error _ => []

/-- Ends a task that comes to no report. What could be written of the programs is logged, and, of a
session that broke down, that it began and found its tools. -/
def breakOff (available : List LogRecord) (q : Bench.Request) (f : Bench.NoReport) :
    TaskM Report := do
  let ks ← demand (.because "Corpus run failed") (q.catalog.select q.requested)
  let ps ← synthesizeAll (.because "Corpus run failed") ks
  match f with
  | .refused e => throw (.because "Corpus run failed" e)
  | .panic message =>
    note (.ofEvent q.head.runId.text (.started ps.length q.permits) :: available)
    throw (.panic message)

/-- Runs a session on the host, and logs it. -/
def runSession (s : RunSettings) (q : Bench.Request) : TaskM Report := do
  let host := (← get).host
  let available := searchLog s.tool host
  match Bench.run (.ofHost s.tool host) q with
  | .error f => breakOff available q f
  | .ok session =>
    note (session.log available fun p => (Trial.ofProgram s.tool host p).2.log)
    return session.report

def runCorpus (head : Report.Head) (o : RunOptions) : TaskM Nat := do
  let config ← loadConfig o.tools.config
  let catalog ← loadCatalog config
  let requested ← ExceptT.mk (pure (kindIds o.kinds))
  let s := settings config o
  note [.running s]
  let report ← runSession s
    { catalog := catalog
      requested := requested
      parallelism := s.parallelism
      verifier := ⟨o.matchMode⟩
      head := head }
  match o.output with
  | some path =>
    onFiles (fun e => .error (o.format.failure path) [e.message]) (report.save o.format path)
    print report.text
    print ("Report written to " ++ Path.quote path ++ "\n")
  | none =>
    print (report.render o.format)
    if o.format = .json then print "\n"
  return report.exitCode

def list (config : Option String) (json : Bool) : TaskM Nat := do
  let catalog ← loadCatalog (← loadConfig config)
  print (if json then catalog.json ++ "\n" else catalog.table)
  return 0

def synthesize (id : String) (patch : VariantPatch) (config out : Option String) : TaskM Nat := do
  let catalog ← loadCatalog (← loadConfig config)
  let kind ← demand .ofSetup (catalog.lookupText id)
  let program ← demand (.because s!"Failed to synthesize {kind.id}")
    (kind.synthesize (patch.apply kind.variant))
  note [.synthesized program]
  match out with
  | some path =>
    onFiles (fun e => .error ("Failed to write " ++ Path.quote path) [e.message])
      (File.Action.writeText path program.source)
    note [.written program]
    print (s!"Wrote {program.fileName} ({program.shortDigest}) to " ++ Path.quote path ++ "\n")
  | none => print program.source
  return 0

def emit (out : String) (kinds : List String) (config : Option String) : TaskM Nat := do
  let catalog ← loadCatalog (← loadConfig config)
  let requested ← ExceptT.mk (pure (kindIds kinds))
  let selection ← demand .ofSetup (catalog.select requested)
  let ps ← synthesizeAll (.because "Failed to synthesize corpus") selection
  let manifest ← onFiles
    (fun e => .because ("Failed to write corpus to " ++ Path.quote out) (.io e))
    (Corpus.emit out ps)
  note [.emitted out ps]
  print s!"Emitted {ps.length} programs\n"
  ps.forM fun p => print s!"  {p.shortDigest}  {p.kind}\n"
  print ("Manifest: " ++ Path.quote manifest ++ "\n")
  return 0

/-- The first line that a compiler prints about its version, if it has one. -/
def versionLine? (h : Host) (compiler : String) : Option String :=
  let i : Invocation := {
    program := compiler
    args := ["--version"]
    env := h.env
    directory := h.tree.workingDirectory }
  match h.run i none with
  | .ok (some a, _) =>
    if a.status.isSuccess then
      (Text.lines (Text.Utf8.decodeLossy a.stdout)).head?.map fun l => String.ofList (Text.trim l)
    else none
  | _ => none

def checkTools (o : ToolOptions) : TaskM Nat := do
  let config ← loadConfig o.config
  let tool := toolchain config o
  let host := (← get).host
  print "faultcorpus toolchain\n=====================\n\n"
  match tool.search host.tree host.env with
  | .error e =>
    print s!"Compiler: {tool.compiler} (unavailable)\n  {e.message}\n"
    return 2
  | .ok tools =>
    print s!"Compiler: {tools.compiler}\n"
    match versionLine? host tools.compiler with
    | some line => print s!"  {line}\n"
    | none => pure ()
    print ("Flags: " ++ " ".intercalate tool.flags ++ "\n")
    print ("Run wrapper: " ++ tools.wrapper.getD "(none)" ++ "\n\nEnvironment:\n")
    if tool.env.isEmpty then print "  (none)\n"
    tool.env.forM fun (k, v) => print s!"  {k}={v}\n"
    return 0

/-- Does what is asked for. -/
def Task.perform (head : Report.Head) : Task → TaskM Nat
  | .runCorpus o => CommandLine.runCorpus head o
  | .list config json => CommandLine.list config json
  | .synthesize kind patch config out => CommandLine.synthesize kind patch config out
  | .emit out kinds config => CommandLine.emit out kinds config
  | .checkTools o => CommandLine.checkTools o

end FaultBench.CommandLine

import FaultBench.CommandLine.Response

/-!
# The program

Here a request meets the files of the system: those that it concerns are put into a tree, the
response is worked out on the tree, and what it changes is written back. Processes are not started
here, so that no tools are found.
-/

open FaultBench
open FaultBench.CommandLine (Response Request)

namespace FaultBench.Outer

/-- The path from the root to a location. -/
def pathOf (l : File.Location) : String := "/" ++ "/".intercalate l

/-- What the system has at a location. -/
def entryAt (l : File.Location) : IO (Option File.Entry) := do
  try
    let content ← IO.FS.readBinFile (pathOf l)
    return some (.file content.toList false)
  catch
    | .noFileOrDirectory .. => return none
    | .inappropriateType .. => return some .directory
    | e => throw e

/-- The tree with what the system has at the given location and on the way to it. -/
def survey (t : File.Tree) (l : File.Location) : IO File.Tree := do
  let mut t := t
  for n in [1 : l.length + 1] do
    let at_ := l.take n
    if (t.entry? at_).isNone then
      if let some e ← entryAt at_ then
        t := t.put at_ e
  return t

/-- The location that a path names, if its dots are taken as they stand. -/
def locationOf (here : File.Location) (path : String) : File.Location :=
  (Path.names path).foldl
    (fun l n => if n = "." then l else if n = ".." then l.dropLast else l ++ [n])
    (if Path.isAbsolute path then [] else here)

/-- What a response leaves that was not there before. -/
def changes (before after : File.Tree) : List (File.Location × File.Entry) :=
  after.entries.filter fun e => !before.entries.contains e

/-- The response to a request, once all that it would change was looked up. -/
partial def settle (host : Host) (known : List File.Location) (respond : Host → Response) :
    IO (Host × Response) := do
  let r := respond host
  let new := ((changes host.tree r.host.tree).map (·.1)).filter (!known.contains ·)
  if new.isEmpty then return (host, r)
  let tree ← new.foldlM survey host.tree
  settle { host with tree := tree } (known ++ new) respond

def apply (change : File.Location × File.Entry) : IO Unit :=
  match change.2 with
  | .directory => IO.FS.createDirAll (pathOf change.1)
  | .file content _ => IO.FS.writeBinFile (pathOf change.1) ⟨content.toArray⟩

/-- The variables that the program looks at. -/
def environment : IO Environment := do
  let names := ["PATH", "TMPDIR", CommandLine.configVariable, CommandLine.compilerVariable,
    CommandLine.logVariable]
  return .ofPairs (← names.filterMapM fun n => return (← IO.getEnv n).map (n, ·))

/-- A new id, and the time at which the process began. -/
def newHead : IO Report.Head := do
  let digits := (← IO.getRandomBytes 32).toList.map UInt8.toNat
  let id := Uuid.ofRandom fun i => digits.getD i 0
  let time ← try
      let entry ← IO.FS.realPath "/proc/self"
      let began := (← entry.metadata).modified
      pure (began.sec.toNat, began.nsec.toNat)
    catch _ => pure (0, 0)
  return ⟨id, .ofEpoch time.1 time.2⟩

/-- A record of the log as a line. -/
def logLine (json : Bool) (r : LogRecord) : String :=
  let level := r.level.name.map Char.toUpper
  if json then
    Json.write .compact (.fields [("level", .text level), ("fields", .fields r.fields),
      ("target", .text r.source.target)])
  else
    let shown (kv : String × Datum) : String := match kv with
      | ("message", .text s) => s
      | (k, v) => k ++ "=" ++ Json.write .compact v
    " ".intercalate (level :: r.fields.map shown)

end FaultBench.Outer

open FaultBench.Outer in
def main (args : List String) : IO UInt32 := do
  let env ← environment
  let head ← newHead
  let here := (Path.names (← IO.currentDir).toString)
  let paths := match Request.ofArgs env args with
    | .ok q => q.task.paths
    | .error _ => []
  let wanted := here :: paths.map (locationOf here)
  let tree ← wanted.foldlM survey ⟨[], here⟩
  let (host, r) ← settle ⟨tree, env, []⟩ wanted fun h => Response.ofArgs h head args
  (changes host.tree r.host.tree).forM apply
  let err ← IO.getStderr
  r.log.forM fun x => err.putStrLn (logLine r.logJson x)
  IO.print r.stdout
  err.putStr r.stderr
  return UInt32.ofNat r.exitCode

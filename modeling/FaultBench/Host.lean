import FaultBench.File.Tree
import FaultBench.Host.Command

/-!
# Hosts

A host has a tree of files, variables, and commands that its executable files hold. `Host.run` starts
a process on it.
-/

namespace FaultBench

structure Host where
  tree : File.Tree
  env : Environment
  commands : List (File.Location × Command)

/-- A process that is to be started. -/
structure Invocation where
  program : String
  args : List String
  env : Environment
  /-- The directory in which it works. -/
  directory : File.Location

namespace Host

/-- The host as a process sees it that works in the given directory. -/
def inDirectory (h : Host) (l : File.Location) : Host :=
  { h with tree := { h.tree with workingDirectory := l } }

/-- The command of a file that can be run. -/
def command (h : Host) (path : String) : Except IoError Command := do
  match ← h.tree.target path with
  | .directory _ => .error .permissionDenied
  | .name parent name slash =>
    match h.tree.entry? (parent ++ [name]) with
    | none => .error .notFound
    | some .directory => .error .permissionDenied
    | some (.file _ executable) =>
      if slash then .error .notDirectory
      else if !executable then .error .permissionDenied
      else match h.commands.lookup (parent ++ [name]) with
        | some .loop => .error .tooManyLinks
        | some c => .ok c
        | none => .ok (.program {})

/-- Puts a file at a path, with the command that it holds. -/
def install (h : Host) (path : String) (executable : Bool) (c : Command) : Host :=
  match h.tree.target path with
  | .ok (.name parent name _) =>
    let l := parent ++ [name]
    { h with tree := h.tree.put l (.file [] executable), commands := (l, c) :: h.commands }
  | _ => h

/-- The host after a compiler has put its product at a path. -/
def receive (h : Host) (c : Compilation) (path : String) : Host :=
  match c.product with
  | .program => h.install path true (.program c.program)
  | .nothing => h
  | .data => h.install path false (.program c.program)
  | .loop => h.install path true .loop

/-- The name of a file without its extension. -/
def stem (path : String) : String :=
  let name := ((Path.fileName? path).getD "").toList
  match name.reverse.dropWhile (· != '.') with
  | [] | ['.'] => String.ofList name
  | _ :: rest => String.ofList rest.reverse

/-- What the last two arguments of a compiler name: its product and its source. -/
def productAndSource (args : List String) : String × String :=
  match args.reverse with
  | source :: product :: _ => (product, source)
  | [source] => ("", source)
  | [] => ("", "")

/-- The line that a wrapper prints for an argument. -/
def wrapperLine (arg : String) : String := "wrap:" ++ arg ++ "\n"

/-- How a wrapper ends that cannot become another program. -/
def wrapperFailure : IoError → ExitStatus
  | .notFound => .code 127
  | _ => .code 126

/-- What a wrapper does. -/
def wrap (h : Host) (args : List String) (env : Environment) : Activity :=
  let printed := args.dropLast.flatMap fun a => (wrapperLine a).toUTF8.toList
  let inner : Activity :=
    match args.getLast?.map h.command with
    | some (.ok (.program s)) => s.play env
    | some (.error e) => { Script.play {} env with status := wrapperFailure e }
    | _ => Script.play {} env
  { inner with stdout := printed ++ inner.stdout }

/-- Starts a process and waits for it, not longer than the given time. A process that takes longer is
killed before it leaves anything. -/
def run (h : Host) (i : Invocation) (limitMs : Option Nat) :
    Except IoError (Option Activity × Host) := do
  if (i.program :: i.args ++ i.env.flatMap fun kv => [kv.1, kv.2]).any (·.toList.contains '\x00') then
    .error .zeroInArgument
  else
    let here := h.inDirectory i.directory
    let inTime (a : Activity) (after : Host) : Option Activity × Host :=
      if limitMs.all (a.tookMs < ·) then (some a, after) else (none, h)
    match ← here.command i.program with
    | .program s => return inTime (s.play i.env) h
    | .loop => .error .tooManyLinks
    | .wrapper => return inTime (here.wrap i.args i.env) h
    | .compiler known other version =>
      match version, i.args with
      | some s, "--version" :: _ => return inTime (s.play i.env) h
      | _, _ =>
        let (product, source) := productAndSource i.args
        let c := (known.lookup (stem source)).getD other
        let after := if c.script.status.isSuccess then
            (here.receive c product).inDirectory h.tree.workingDirectory
          else h
        return inTime (c.script.play i.env) after

end Host

end FaultBench

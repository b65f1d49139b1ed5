import FaultBench.File.Path
import FaultBench.IoError

/-!
# Trees of files

A tree holds directories and files, each at a location: the names that lead to it from the root. It
holds no symbolic links, and no file at two locations, so that each location has its own content.
`Tree.target` finds out what a path leads to. The actions read and change a tree, and leave it as
far as they got where they fail.
-/

namespace FaultBench.File

/-- The names of the directories on the way from the root, and of the thing itself. -/
abbrev Location := List String

inductive Entry
  | directory
  | file (content : List UInt8) (executable : Bool)
  deriving DecidableEq, Repr

structure Tree where
  entries : List (Location × Entry)
  /-- The directory at which relative paths start. -/
  workingDirectory : Location := []
  deriving Repr

/-- The end of a path. -/
inductive Target
  /-- A directory that exists. -/
  | directory (l : Location)
  /-- A name in a directory that exists. A slash behind it asks for a directory. -/
  | name (parent : Location) (name : String) (slash : Bool)

namespace Tree

def maxName : Nat := 255
def maxPath : Nat := 4095

/-- What is at a location. The root is always there. -/
def entry? (t : Tree) (l : Location) : Option Entry :=
  if l.isEmpty then some .directory else t.entries.lookup l

/-- Puts something at a location, in place of what is there. -/
def put (t : Tree) (l : Location) (e : Entry) : Tree :=
  if (t.entries.lookup l).isSome then
    { t with entries := t.entries.map fun x => if x.1 == l then (l, e) else x }
  else { t with entries := t.entries ++ [(l, e)] }

/-- Takes away what is at a location and below it. -/
def remove (t : Tree) (l : Location) : Tree :=
  { t with entries := t.entries.filter fun e => !l.isPrefixOf e.1 }

/-- The directory that names lead to from another one. -/
def walk (t : Tree) (here : Location) : List String → Except IoError Location
  | [] => .ok here
  | n :: rest =>
    if n = "." then walk t here rest
    else if n = ".." then walk t here.dropLast rest
    else if maxName < n.utf8ByteSize then .error .nameTooLong
    else match t.entry? (here ++ [n]) with
      | none => .error .notFound
      | some (.file ..) => .error .notDirectory
      | some .directory => walk t (here ++ [n]) rest

/-- What a path leads to. -/
def target (t : Tree) (p : String) : Except IoError Target :=
  if p.toList.contains '\x00' then .error .zeroInName
  else if p = "" then .error .notFound
  else if maxPath < p.utf8ByteSize then .error .nameTooLong
  else
    let start := if Path.isAbsolute p then [] else t.workingDirectory
    let names := Path.names p
    match names.getLast? with
    | none => .ok (.directory start)
    | some n => do
      let parent ← t.walk start names.dropLast
      if n = "." then .ok (.directory parent)
      else if n = ".." then .ok (.directory parent.dropLast)
      else if maxName < n.utf8ByteSize then .error .nameTooLong
      else .ok (.name parent n (Path.endsWithSlash p))

/-- The thing that a path leads to. -/
def find (t : Tree) (p : String) : Except IoError Entry := do
  match ← t.target p with
  | .directory _ => .ok .directory
  | .name parent n slash =>
    match t.entry? (parent ++ [n]) with
    | none => .error .notFound
    | some (.file c x) => if slash then .error .notDirectory else .ok (.file c x)
    | some .directory => .ok .directory

def isDirectory (t : Tree) (p : String) : Bool :=
  match t.find p with
  | .ok .directory => true
  | _ => false

/-- A path leads to a file that can be run. -/
def isExecutable (t : Tree) (p : String) : Bool :=
  match t.find p with
  | .ok (.file _ executable) => executable
  | _ => false

def read (t : Tree) (p : String) : Except IoError (List UInt8) := do
  match ← t.find p with
  | .file content _ => .ok content
  | .directory => .error .isDirectory

/-- The tree with a new directory. -/
def createDirectory (t : Tree) (p : String) : Except IoError Tree := do
  match ← t.target p with
  | .directory _ => .error .alreadyExists
  | .name parent n _ =>
    match t.entry? (parent ++ [n]) with
    | some _ => .error .alreadyExists
    | none => .ok (t.put (parent ++ [n]) .directory)

/-- The tree with a file of the given content, in place of the one that is there. -/
def write (t : Tree) (p : String) (content : List UInt8) : Except IoError Tree := do
  match ← t.target p with
  | .directory _ => .error .isDirectory
  | .name parent n slash =>
    if slash then .error .isDirectory
    else match t.entry? (parent ++ [n]) with
      | some .directory => .error .isDirectory
      | some (.file _ executable) => .ok (t.put (parent ++ [n]) (.file content executable))
      | none => .ok (t.put (parent ++ [n]) (.file content false))

end Tree

/-- What reads and changes a tree, and may fail. -/
abbrev Action (α : Type) := ExceptT IoError (StateM Tree) α

namespace Action

/-- A change that is made as a whole or not at all. -/
def change (f : Tree → Except IoError Tree) : Action Unit := do
  match f (← get) with
  | .ok t => set t
  | .error e => throw e

def write (p : String) (content : List UInt8) : Action Unit := change (·.write p content)

def writeText (p text : String) : Action Unit := write p text.toUTF8.toList

/-- A directory that was there already is as good as a new one. -/
def ensureDirectory (p : String) : Action Unit := do
  let t ← get
  match t.createDirectory p with
  | .ok t => set t
  | .error e => if t.isDirectory p then pure () else throw e

/-- A directory, with those that are missing on the way to it. -/
def createDirectories : Nat → String → Action Unit
  | 0, _ => pure ()
  | fuel + 1, p => do
    if p = "" then return
    let t ← get
    match t.createDirectory p, Path.parent? p with
    | .ok t, _ => set t
    | .error .notFound, some q => do
      createDirectories fuel q
      ensureDirectory p
    | .error e, _ => if t.isDirectory p then pure () else throw e

def ensureDirectories (p : String) : Action Unit :=
  createDirectories ((Path.components p).length + 1) p

end Action

end FaultBench.File

import FaultBench.Text.Quoted
import FaultBench.Text.Search

/-!
# Paths

A path is a text of names with slashes between them. What it leads to depends on the tree of files;
here it is taken apart and put together as a text.
-/

namespace FaultBench.Path

def isAbsolute (p : String) : Bool := p.toList.head? == some '/'

/-- The names in a path. -/
def names (p : String) : List String :=
  ((Text.splitOn '/' p.toList).map String.ofList).filter (· != "")

def endsWithSlash (p : String) : Bool := p.toList.getLast? == some '/'

/-- The path `q` taken from the directory `p`. -/
def join (p q : String) : String :=
  if isAbsolute q then q
  else if p = "" || endsWithSlash p then p ++ q
  else p ++ "/" ++ q

/-- The parts that tell a path from others: its names, less the dots that change nothing. -/
def components (p : String) : List String :=
  let ns := names p
  let rest := ns.filter (· != ".")
  if isAbsolute p then "/" :: rest
  else if ns.head? == some "." then "." :: rest
  else rest

/-- The path without its last component. -/
def parent? (p : String) : Option String :=
  match components p with
  | [] => none
  | ["/"] => none
  | "/" :: rest => some ("/" ++ "/".intercalate rest.dropLast)
  | cs => some ("/".intercalate cs.dropLast)

/-- The last component, where it is a name. -/
def fileName? (p : String) : Option String :=
  match (components p).getLast? with
  | some "/" | some "." | some ".." | none => none
  | some n => some n

/-- The path between double quotes. -/
def quote (p : String) : String :=
  "\"" ++ Text.substitute Text.escapeInPath p ++ "\""

end FaultBench.Path

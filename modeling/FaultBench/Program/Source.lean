/-!
# Source texts

The text of a C program: a comment, inclusions, global definitions and functions. Lines are
indented by steps of four blanks.
-/

namespace FaultBench

/-- A line of a source text. -/
structure Line where
  indent : Nat
  text : String
  deriving DecidableEq, Repr

namespace Line

/-- The characters of a line, with the line feed that ends it. -/
def chars (l : Line) : List Char := List.replicate (4 * l.indent) ' ' ++ l.text.toList ++ ['\n']

def blank : Line := ⟨0, ""⟩

end Line

/-- The definition of a function. -/
structure Function where
  head : String
  body : List Line
  deriving DecidableEq, Repr

def Function.lines (f : Function) : List Line :=
  [⟨0, f.head⟩, ⟨0, "\x7b"⟩] ++ f.body ++ [⟨0, "\x7d"⟩]

structure Source where
  /-- The lines of the comment, less its marks. -/
  title : String
  notes : List String
  headers : List String
  globals : List Line
  functions : List Function
  deriving DecidableEq, Repr

namespace Source

def commentLines (s : Source) : List Line :=
  [⟨0, "/* " ++ s.title⟩] ++ s.notes.map (fun n => ⟨0, " * " ++ n⟩) ++ [⟨0, " */"⟩]

def headerLines (s : Source) : List Line := s.headers.map fun h => ⟨0, "#include <" ++ h ++ ">"⟩

/-- The global definitions and the blank line behind them, if there are any. -/
def globalLines (s : Source) : List Line :=
  if s.globals.isEmpty then [] else s.globals ++ [Line.blank]

/-- The functions, with a blank line between each and the next. -/
def functionLines (s : Source) : List Line :=
  [Line.blank].intercalate (s.functions.map Function.lines)

def lines (s : Source) : List Line :=
  s.commentLines ++ [Line.blank] ++ s.headerLines ++ [Line.blank] ++ s.globalLines ++
    s.functionLines

def chars (s : Source) : List Char := s.lines.flatMap Line.chars

def text (s : Source) : String := String.ofList s.chars

end Source

end FaultBench

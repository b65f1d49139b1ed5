/-!
# Lines

A text is cut at its line feeds. A carriage return in front of a line feed belongs to the line
end, and nothing follows a last line feed.
-/

namespace FaultBench.Text

/-- The line whose characters were read in reverse, without the carriage return that ends it. -/
def closeLine : List Char → List Char
  | '\r' :: r => r.reverse
  | r => r.reverse

/-- The lines of a text of which `line` was read already, in reverse. -/
def linesFrom (line : List Char) : List Char → List (List Char)
  | [] => if line.isEmpty then [] else [line.reverse]
  | '\n' :: rest => closeLine line :: linesFrom [] rest
  | c :: rest => linesFrom (c :: line) rest

def lines (s : List Char) : List (List Char) := linesFrom [] s

@[simp] theorem lines_nil : lines [] = [] := rfl

theorem linesFrom_lineFeed (line rest : List Char) :
    linesFrom line ('\n' :: rest) = closeLine line :: lines rest := rfl

end FaultBench.Text

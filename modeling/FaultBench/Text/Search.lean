/-!
# Finding a text in a text

`find?` gives the first place where a pattern occurs; `lineAt` the line around a place.
-/

namespace FaultBench.Text

/-- The number of characters in front of the first occurrence of `pat`. -/
def find? (pat : List Char) : List Char → Option Nat
  | [] => if pat.isEmpty then some 0 else none
  | c :: rest => if pat.isPrefixOf (c :: rest) then some 0 else (find? pat rest).map (· + 1)

def contains (pat s : List Char) : Bool := (find? pat s).isSome

/-- The line that place `i` of `s` lies in, without its line feed. A line feed ends the line
in front of it. -/
def lineAt (s : List Char) (i : Nat) : List Char :=
  ((s.take i).reverse.takeWhile (· != '\n')).reverse ++ (s.drop i).takeWhile (· != '\n')

/-- Cuts a text at every occurrence of `sep`. -/
def splitOn (sep : Char) : List Char → List (List Char)
  | [] => [[]]
  | c :: rest =>
    if c == sep then [] :: splitOn sep rest
    else match splitOn sep rest with
      | [] => [[c]]
      | first :: others => (c :: first) :: others

/-- Every character `c` becomes the text `f c`. -/
def substitute (f : Char → List Char) (s : String) : String := String.ofList (s.toList.flatMap f)

end FaultBench.Text

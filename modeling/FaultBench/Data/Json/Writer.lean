import FaultBench.Data.Datum

/-!
# Writing JSON

A datum is written on one line, or on indented lines. Both forms escape the same characters: the
double quote, the backslash and the control characters below U+0020.
-/

namespace FaultBench.Json

/-- The digits of a control character's number behind `\u`. -/
def hexEscape (c : Char) : List Char :=
  ['\\', 'u', '0', '0', Nat.digitChar (c.toNat / 16), Nat.digitChar (c.toNat % 16)]

def escape (c : Char) : List Char :=
  if c == '"' then ['\\', '"']
  else if c == '\\' then ['\\', '\\']
  else if c == '\n' then ['\\', 'n']
  else if c == '\r' then ['\\', 'r']
  else if c == '\t' then ['\\', 't']
  else if c == '\x08' then ['\\', 'b']
  else if c == '\x0c' then ['\\', 'f']
  else if c.toNat < 0x20 then hexEscape c
  else [c]

def string (s : String) : List Char := '"' :: s.toList.flatMap escape ++ ['"']

/-- How the parts of lists and records are set apart. -/
inductive Layout
  | compact
  /-- Each part on a line of its own, indented by steps of two blanks. -/
  | indented
  deriving DecidableEq, Repr

namespace Layout

/-- What stands in front of a part at the given depth. -/
def lead : Layout → Nat → List Char
  | .compact, _ => []
  | .indented, depth => '\n' :: List.replicate (2 * depth) ' '

/-- What stands between a name and its value. -/
def colon : Layout → List Char
  | .compact => [':']
  | .indented => [':', ' ']

end Layout

mutual

/-- A datum at the given depth. What no record holds is written as nothing. -/
def value (l : Layout) (depth : Nat) : Datum → List Char
  | .null | .real | .broken => "null".toList
  | .bool b => (if b then "true" else "false").toList
  | .int n => (toString n).toList
  | .text s | .moment s => string s
  | .list [] => ['[', ']']
  | .list (x :: xs) =>
    ['['] ++ l.lead (depth + 1) ++ value l (depth + 1) x ++ elements l (depth + 1) xs ++
      l.lead depth ++ [']']
  | .fields [] => ['\x7b', '\x7d']
  | .fields ((k, x) :: kvs) =>
    ['\x7b'] ++ l.lead (depth + 1) ++ string k ++ l.colon ++ value l (depth + 1) x ++
      members l (depth + 1) kvs ++ l.lead depth ++ ['\x7d']

/-- The parts of a list behind its first. -/
def elements (l : Layout) (depth : Nat) : List Datum → List Char
  | [] => []
  | x :: xs => [','] ++ l.lead depth ++ value l depth x ++ elements l depth xs

/-- The parts of a record behind its first. -/
def members (l : Layout) (depth : Nat) : List (String × Datum) → List Char
  | [] => []
  | (k, x) :: kvs =>
    [','] ++ l.lead depth ++ string k ++ l.colon ++ value l depth x ++ members l depth kvs

end

def write (l : Layout) (d : Datum) : String := String.ofList (value l 0 d)

end FaultBench.Json

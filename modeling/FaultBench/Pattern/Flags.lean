import FaultBench.Pattern.Error
import FaultBench.Text.Blank

/-!
# Flags

Flags change how the rest of a group is read. They are written as letters; those behind a hyphen
are turned off.
-/

namespace FaultBench.Pattern

open FaultBench.Text

structure Flags where
  ignoreCase : Bool := false
  /-- `^` and `$` hold at the ends of lines. -/
  multiLine : Bool := false
  /-- `.` stands for a line feed too. -/
  anyChar : Bool := false
  /-- Repetitions prefer few stretches to many. Where a pattern first occurs does not depend
  on it. -/
  swapGreed : Bool := false
  unicode : Bool := true
  /-- A carriage return ends a line. -/
  returnLines : Bool := false
  /-- Blanks and comments are skipped. -/
  verbose : Bool := false

namespace Flags

/-- The flags with the one of the letter `c` turned on or off. -/
def set? (f : Flags) (c : Char) (on : Bool) : Option Flags :=
  match c with
  | 'i' => some { f with ignoreCase := on }
  | 'm' => some { f with multiLine := on }
  | 's' => some { f with anyChar := on }
  | 'U' => some { f with swapGreed := on }
  | 'u' => some { f with unicode := on }
  | 'R' => some { f with returnLines := on }
  | 'x' => some { f with verbose := on }
  | _ => none

/-- Reads letters up to a colon or a closing parenthesis, which stays. `seen` holds the letters and
the hyphen read so far, the last one first. -/
def read (f : Flags) (seen : List Char) : List Char → Except PatternFlaw (Flags × List Char)
  | [] => .error .groupFlags
  | c :: rest =>
    if c == ':' || c == ')' then
      if seen.head? == some '-' then .error .groupFlags else .ok (f, c :: rest)
    else if seen.contains c then .error .groupFlags
    else if c == '-' then read f (c :: seen) rest
    else match f.set? c !(seen.contains '-') with
      | some g => read g (c :: seen) rest
      | none => .error .groupFlags

end Flags

/-- The text behind blanks and comments. A comment reaches from `#` to the end of its line. -/
def skipBlanks (inComment : Bool) : List Char → List Char
  | [] => []
  | c :: rest =>
    if inComment then skipBlanks (c != '\n') rest
    else if isBlank c then skipBlanks false rest
    else if c == '#' then skipBlanks true rest
    else c :: rest

/-- The text behind what these flags skip. -/
def Flags.skip (f : Flags) (s : List Char) : List Char := if f.verbose then skipBlanks false s else s

@[simp] theorem Flags.skip_default (s : List Char) : ({} : Flags).skip s = s := rfl

end FaultBench.Pattern

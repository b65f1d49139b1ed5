import FaultBench.Text.Blank
import FaultBench.Text.Lines
import FaultBench.Text.Search

/-!
# Diagnostics of compilers

A compiler reports a problem on a line that holds a file, a line, a column, how severe the problem
is, and a message, with colons between them.
-/

namespace FaultBench

open Text

inductive Severity
  | fatal
  | error
  | warning
  | note
  deriving DecidableEq, Repr

namespace Severity

def all : List Severity := [.fatal, .error, .warning, .note]

def name : Severity → String
  | .fatal => "fatal"
  | .error => "error"
  | .warning => "warning"
  | .note => "note"

/-- The words that a diagnostic shows. -/
def label : Severity → String
  | .fatal => "fatal error"
  | s => s.name

/-- The problem keeps the program from being compiled. -/
def isError : Severity → Bool
  | .fatal | .error => true
  | _ => false

end Severity

structure Diagnostic where
  file : String
  line : Nat
  column : Nat
  severity : Severity
  message : String
  deriving DecidableEq, Repr

namespace Diagnostic

/-- The line that shows a diagnostic. -/
def text (d : Diagnostic) : String :=
  s!"{d.file}:{d.line}:{d.column}: {d.severity.label}: {d.message}"

/-! ## Reading -/

/-- A number of at most 32 bits and what follows it. There is no number where there is no digit. -/
def number? (s : List Char) : Option (Nat × List Char) :=
  let ds := s.takeWhile Char.isDigit
  if ds.isEmpty then none
  else some (ds.foldl (fun n c => 10 * n + (c.toNat - 48)) 0, s.dropWhile Char.isDigit)

/-- The severity at the head of a text, and what follows its words. -/
def severity? (s : List Char) : Option (Severity × List Char) :=
  Severity.all.findSome? fun v =>
    if v.name.toList.isPrefixOf s then
      let rest := s.drop v.name.length
      some (v, if " error".toList.isPrefixOf rest then rest.drop 6 else rest)
    else none

/-- What follows a colon and a blank. -/
def afterColon? : List Char → Option (List Char)
  | ':' :: c :: rest => if isBlank c then some rest else none
  | _ => none

/-- The part of a diagnostic behind its file, which was read already, in reverse. -/
def tail? (file : List Char) (s : List Char) : Option Diagnostic :=
  match s with
  | ':' :: rest => do
    let (line, rest) ← number? rest
    match rest with
    | ':' :: rest => do
      let (column, rest) ← number? rest
      let (severity, rest) ← severity? (← afterColon? rest)
      let message ← afterColon? rest
      if message.contains '\n' then none
      else some ⟨String.ofList file.reverse, line, column, severity, String.ofList message⟩
    | _ => none
  | _ => none

/-- The diagnostic with the shortest file that a text can be read as; `file` was read already, in
reverse. -/
def search (file : List Char) : List Char → Option Diagnostic
  | [] => none
  | c :: rest =>
    if c == '\n' then none
    else (tail? (c :: file) rest).or (search (c :: file) rest)

/-- The diagnostic that a line shows, if its numbers have at most 32 bits. -/
def ofLine? (line : List Char) : Option Diagnostic :=
  (search [] line).filter fun d => d.line ≤ 0xffffffff && d.column ≤ 0xffffffff

/-! ## Whole outputs -/

/-- `s` begins with `start`; what follows it has the property `p`. -/
def startsThen (start : String) (p : List Char → Bool) (s : List Char) : Bool :=
  start.toList.isPrefixOf s && p (s.drop start.length)

/-- Warnings about the set-up of the compiler, which say nothing about a program. -/
def isNoise (line : List Char) : Bool :=
  startsThen "warning: " (Text.contains " incompatible with ".toList) line ||
  startsThen "warning: " (" input unused".toList.isSuffixOf ·) line ||
  startsThen "warning: include location "
    (Text.contains " is unsafe for cross-compilation".toList) line

/-- The diagnostics that an output shows. -/
def ofOutput (output : List Char) : List Diagnostic :=
  ((lines output).filter (!isNoise ·)).filterMap ofLine?

/-- How many lines stand for the cause of a failure that no diagnostic shows. -/
def rawLines : Nat := 20

/-- Why a compiler failed: the errors that its output shows or, if there are none, the end of the
output. -/
def causes (output : List Char) : List String :=
  let errors := (ofOutput output).filter (·.severity.isError)
  if errors.isEmpty then
    let shown := (lines output).filter (!isBlankText ·)
    (shown.drop (shown.length - rawLines)).map String.ofList
  else errors.map text

end Diagnostic

end FaultBench

import FaultBench.Text.Letters
import FaultBench.Text.Lines

/-!
# Reports of sanitizers

A sanitizer's report opens with a headline that names the sanitizer and the fault, and closes with
a summary. What is shown of it is a snippet: a short text without blanks at its ends, which is cut
where it is too long.
-/

namespace FaultBench

open Text

/-! ## Snippets -/

/-- How many characters a snippet has at most. -/
def maxSnippet : Nat := 200

def ellipsis : Char := '…'

/-- The trimmed text, of which an ellipsis replaces what is too long. -/
def snippet (s : List Char) : List Char :=
  let t := Text.trim s
  if t.length ≤ maxSnippet then t else t.take (maxSnippet - 1) ++ [ellipsis]

/-! ## Headlines -/

structure Headline where
  tool : String
  message : String
  deriving DecidableEq, Repr

namespace Headline

/-- What follows the number of a process between pairs of equals signs. -/
def afterProcess (s : List Char) : Option (List Char) :=
  match s with
  | '=' :: '=' :: rest =>
    if (rest.takeWhile isDecimalDigit).isEmpty then none
    else match rest.dropWhile isDecimalDigit with
      | '=' :: '=' :: rest => some rest
      | _ => none
  | _ => some s

/-- The name of a sanitizer: at least one character and then the word for its kind. -/
def isToolName (s : List Char) : Bool :=
  "Sanitizer".toList.isSuffixOf s && s.length != "Sanitizer".length

/-- The headline that a line is, which has no blanks at its end. -/
def ofTrimmed? (line : List Char) : Option Headline := do
  let s ← afterProcess line
  if !"ERROR: ".toList.isPrefixOf s then none
  let s := s.drop 7
  let tool := s.takeWhile isWordChar
  if !isToolName tool then none
  match s.dropWhile isWordChar with
  | ':' :: ' ' :: message => some ⟨String.ofList tool, String.ofList message⟩
  | _ => none

def ofLine? (line : List Char) : Option Headline := ofTrimmed? (trimEnd line)

/-- The first headline of a text. -/
def find? (text : List Char) : Option Headline := (lines text).findSome? ofLine?

end Headline

/-- The first line of a text that is a summary, less the blanks at its ends. -/
def summaryLine? (text : List Char) : Option (List Char) :=
  ((lines text).map trim).find? ("SUMMARY:".toList.isPrefixOf ·)

/-- What a text reports: its headline, or its summary, or its last line that is not blank. -/
def describeObserved (text : List Char) : Option (List Char) :=
  match Headline.find? text with
  | some h => some (snippet (h.tool.toList ++ ": ".toList ++ h.message.toList))
  | none => match summaryLine? text with
    | some line => some (snippet line)
    | none => (((lines text).map trim).filter (!·.isEmpty)).getLast?.map snippet

end FaultBench

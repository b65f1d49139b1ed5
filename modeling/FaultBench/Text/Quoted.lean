import FaultBench.Text.Letters

/-!
# Quoted texts

A text is quoted by writing its marks, backslashes and unprintable characters as escapes. A
character that extends the one before it is always escaped, so that it cannot join the opening
mark.
-/

namespace FaultBench.Text

/-- A character as the escape `\u` with its number in hexadecimal between braces. -/
def numberEscape (c : Char) : List Char :=
  ['\\', 'u', '\x7b'] ++ Nat.toDigits 16 c.toNat ++ ['\x7d']

/-- How a character is written between two marks `mark`. -/
def escapeIn (mark c : Char) : List Char :=
  if c == '\x00' then ['\\', '0']
  else if c == '\t' then ['\\', 't']
  else if c == '\r' then ['\\', 'r']
  else if c == '\n' then ['\\', 'n']
  else if c == '\\' || c == mark then ['\\', c]
  else if isExtender c || !isPrintable c then numberEscape c
  else [c]

/-- A text between double quotes. -/
def quoted (s : List Char) : List Char := '"' :: s.flatMap (escapeIn '"') ++ ['"']

/-- A character between single quotes. -/
def quotedChar (c : Char) : List Char := '\'' :: escapeIn '\'' c ++ ['\'']

def quote (s : String) : String := String.ofList (quoted s.toList)

def quoteChar (c : Char) : String := String.ofList (quotedChar c)

/-- How a character is written in a quoted path: both quotation marks are escaped. -/
def escapeInPath (c : Char) : List Char :=
  if c == '\'' then ['\\', c] else escapeIn '"' c

end FaultBench.Text

/-!
# Texts and keys in TOML

Blanks, comments, the four kinds of texts, and keys. Every reader gives what it read and the text
behind it.
-/

namespace FaultBench.Toml

def isSpace (c : Char) : Bool := c == ' ' || c == '\t'

def skipSpace (s : List Char) : List Char := s.dropWhile isSpace

/-- The text behind a line end. -/
def newline? : List Char → Option (List Char)
  | '\n' :: rest => some rest
  | '\r' :: '\n' :: rest => some rest
  | _ => none

/-- A character that is neither a control character nor a line end. -/
def isPlain (c : Char) : Bool :=
  c == '\t' || (0x20 ≤ c.toNat && c.toNat ≤ 0x7E) || 0x80 ≤ c.toNat

/-- The text behind a comment, if it begins with one. -/
def skipComment : List Char → List Char
  | '#' :: rest => rest.dropWhile isPlain
  | s => s

/-- The text behind blanks, a comment and the end of the line. -/
def lineEnd? (s : List Char) : Option (List Char) :=
  match skipComment (skipSpace s) with
  | [] => some []
  | s => newline? s

/-- The text behind blanks, comments and line ends. A comment must have a line end. -/
def skipLines : Nat → List Char → List Char
  | 0, s => s
  | fuel + 1, s =>
    let t := skipSpace s
    match newline? (skipComment t) with
    | some rest => skipLines fuel rest
    | none => t

/-! ## Texts on one line -/

def hexValue? (c : Char) : Option Nat :=
  if c.isDigit then some (c.toNat - 48)
  else if 'a' ≤ c && c ≤ 'f' then some (c.toNat - 87)
  else if 'A' ≤ c && c ≤ 'F' then some (c.toNat - 55)
  else none

/-- A character by its number in `width` hexadecimal digits. -/
def numberedChar? (width : Nat) (s : List Char) : Option (Char × List Char) := do
  let digits := s.take width
  if digits.length != width then none
  let ds ← digits.mapM hexValue?
  let n := ds.foldl (fun n d => 16 * n + d) 0
  if n.isValidChar then some (Char.ofNat n, s.drop width) else none

/-- What follows a backslash. -/
def escape? : List Char → Option (Char × List Char)
  | 'b' :: rest => some ('\x08', rest)
  | 'f' :: rest => some ('\x0c', rest)
  | 'n' :: rest => some ('\n', rest)
  | 'r' :: rest => some ('\r', rest)
  | 't' :: rest => some ('\t', rest)
  | '"' :: rest => some ('"', rest)
  | '\\' :: rest => some ('\\', rest)
  | 'u' :: rest => numberedChar? 4 rest
  | 'U' :: rest => numberedChar? 8 rest
  | _ => none

/-- A text up to its closing double quote. -/
def basic? : Nat → List Char → Option (List Char × List Char)
  | 0, _ => none
  | fuel + 1, s =>
    match s with
    | '"' :: rest => some ([], rest)
    | '\\' :: rest => do
      let (c, rest) ← escape? rest
      let (cs, rest) ← basic? fuel rest
      return (c :: cs, rest)
    | c :: rest =>
      if isPlain c then do
        let (cs, rest) ← basic? fuel rest
        return (c :: cs, rest)
      else none
    | [] => none

/-- A text up to its closing single quote. It has no escapes. -/
def literal? (s : List Char) : Option (List Char × List Char) :=
  let (cs, rest) := s.span fun c => isPlain c && c != '\''
  match rest with
  | '\'' :: rest => some (cs, rest)
  | _ => none

/-! ## Texts on several lines -/

/-- Drops the line end that may follow the opening quotes. -/
def dropFirstLineEnd (s : List Char) : List Char := (newline? s).getD s

/-- What a run of quotes does within a text on several lines: three close it, and up to two in front
of them belong to it. -/
def quoteRun (mark : Char) (s : List Char) : Option (List Char × Bool × List Char) :=
  let run := s.takeWhile (· == mark)
  let rest := s.dropWhile (· == mark)
  if run.length < 3 then some (run, false, rest)
  else if run.length ≤ 5 then some (run.drop 3, true, rest)
  else none

/-- The text behind a backslash at the end of a line: blanks and line ends are skipped. -/
def continuation? (fuel : Nat) (s : List Char) : Option (List Char) :=
  (newline? (skipSpace s)).map (skipAll fuel)
where
  skipAll : Nat → List Char → List Char
    | 0, s => s
    | fuel + 1, s =>
      let t := skipSpace s
      match newline? t with
      | some rest => skipAll fuel rest
      | none => t

/-- A text up to its three closing quotes, with or without escapes. -/
def multiline? (mark : Char) (escapes : Bool) : Nat → List Char → Option (List Char × List Char)
  | 0, _ => none
  | fuel + 1, s =>
    match newline? s with
    | some rest => do
      let (cs, rest) ← multiline? mark escapes fuel rest
      return ('\n' :: cs, rest)
    | none =>
      match s with
      | [] => none
      | c :: rest =>
        if c == mark then do
          let (content, closed, rest) ← quoteRun mark s
          if closed then some (content, rest)
          else do
            let (cs, rest) ← multiline? mark escapes fuel rest
            return (content ++ cs, rest)
        else if escapes && c == '\\' then
          match continuation? rest.length rest with
          | some rest => multiline? mark escapes fuel rest
          | none => do
            let (c, rest) ← escape? rest
            let (cs, rest) ← multiline? mark escapes fuel rest
            return (c :: cs, rest)
        else if isPlain c then do
          let (cs, rest) ← multiline? mark escapes fuel rest
          return (c :: cs, rest)
        else none

/-- A text on one line, which begins with its quote. -/
def lineText? (s : List Char) : Option (List Char × List Char) :=
  match s with
  | '"' :: rest => basic? (rest.length + 1) rest
  | '\'' :: rest => literal? rest
  | _ => none

/-- A text of any kind, which begins with its quotes. -/
def text? (s : List Char) : Option (List Char × List Char) :=
  match s with
  | '"' :: '"' :: '"' :: rest => multiline? '"' true (rest.length + 1) (dropFirstLineEnd rest)
  | '\'' :: '\'' :: '\'' :: rest => multiline? '\'' false (rest.length + 1) (dropFirstLineEnd rest)
  | s => lineText? s

/-! ## Keys -/

def isKeyChar (c : Char) : Bool := c.isAlphanum || c == '_' || c == '-'

/-- A word, or a text on one line. -/
def simpleKey? (s : List Char) : Option (String × List Char) :=
  match s with
  | '"' :: _ | '\'' :: _ => (lineText? s).map fun (cs, rest) => (String.ofList cs, rest)
  | s =>
    let (cs, rest) := s.span isKeyChar
    if cs.isEmpty then none else some (String.ofList cs, rest)

/-- Simple keys with dots between them, and blanks around each. -/
def key? : Nat → List Char → Option (List String × List Char)
  | 0, _ => none
  | fuel + 1, s => do
    let (k, rest) ← simpleKey? (skipSpace s)
    match skipSpace rest with
    | '.' :: rest => do
      let (ks, rest) ← key? fuel rest
      return (k :: ks, rest)
    | rest => some ([k], rest)

end FaultBench.Toml

import FaultBench.Pattern.Basic
import FaultBench.Pattern.Classes
import FaultBench.Pattern.Flags
import FaultBench.Text.Search

/-!
# Escapes

What a backslash begins: a character that would otherwise have a meaning of its own, a character by
its number, a class of characters, or an anchor.
-/

namespace FaultBench.Pattern

open FaultBench.Text

/-- What stands for one character, or for none at an anchor. -/
inductive Atom
  | char (c : Char)
  | oneOf (mem : Char → Bool)
  | anchor (a : Anchor)

/-- The class of all characters that are equal to a member but for case. -/
def foldClass (f : Flags) (mem : Char → Bool) : Char → Bool :=
  if !f.ignoreCase then mem
  else if f.unicode then fun c => (caseVariants c).any mem
  else fun c => (asciiCaseVariants c).any mem

/-- The class of the characters that `mem` has not. Without Unicode it could hold single bytes. -/
def complement (f : Flags) (mem : Char → Bool) : Except PatternFlaw (Char → Bool) :=
  if f.unicode then .ok fun c => !mem c else .error .notUtf8

def isWordIn (f : Flags) : Char → Bool := if f.unicode then isWordChar else isAsciiWordChar

/-- The class of a single letter such as `d`, if it is one. -/
def letterClass? (f : Flags) : Char → Option (Char → Bool)
  | 'd' => some (if f.unicode then isDecimalDigit else Char.isDigit)
  | 's' => if f.unicode then some isBlank else asciiClass? "space"
  | 'w' => some (isWordIn f)
  | _ => none

/-- Characters that have a meaning of their own somewhere in a pattern. -/
def isMeta (c : Char) : Bool := "\\.+*?()|[]\x7b\x7d^$#&-~".toList.contains c

/-- Characters that stand for themselves behind a backslash. -/
def isEscapable (c : Char) : Bool :=
  isMeta c || (c.toNat < 128 && !c.isAlphanum && c != '<' && c != '>')

def hexDigit? (c : Char) : Option Nat :=
  if c.isDigit then some (c.toNat - 48)
  else if 'a' ≤ c && c ≤ 'f' then some (c.toNat - 87)
  else if 'A' ≤ c && c ≤ 'F' then some (c.toNat - 55)
  else none

def charOfNumber? (n : Nat) : Option Char := if n.isValidChar then some (Char.ofNat n) else none

/-- A character by `width` hexadecimal digits; `n` is the number read so far. -/
def fixedNumber (f : Flags) (n : Nat) : Nat → List Char → Except PatternFlaw (Nat × List Char)
  | 0, s => .ok (n, s)
  | width + 1, s =>
    match f.skip s with
    | [] => .error .escape
    | c :: rest => match hexDigit? c with
      | some d => fixedNumber f (16 * n + d) width rest
      | none => .error .escape

/-- The text up to a closing brace, less what the flags skip, and the text behind it. -/
def untilBrace (f : Flags) : Nat → List Char → Except PatternFlaw (List Char × List Char)
  | 0, _ => .error .escape
  | fuel + 1, s =>
    match f.skip s with
    | [] => .error .escape
    | '\x7d' :: rest => .ok ([], rest)
    | c :: rest => do
      let (name, rest) ← untilBrace f fuel rest
      .ok (c :: name, rest)

/-- A character by its number, behind `\x`, `\u` or `\U`. -/
def numberedChar (f : Flags) (width : Nat) (s : List Char) :
    Except PatternFlaw (Char × List Char) :=
  match f.skip s with
  | '\x7b' :: rest => do
    let (digits, rest) ← untilBrace f (rest.length + 1) rest
    match digits.mapM hexDigit? with
    | some ds =>
      match charOfNumber? (ds.foldl (fun n d => 16 * n + d) 0) with
      | some c => if ds.isEmpty then .error .escape else .ok (c, f.skip rest)
      | none => .error .escape
    | none => .error .escape
  | s => do
    let (n, rest) ← fixedNumber f 0 width s
    match charOfNumber? n with
    | some c =>
      if width == 2 && !f.unicode && 127 < n then .error .notUtf8 else .ok (c, f.skip rest)
    | none => .error .escape

/-- The class that a name between braces stands for, and whether the name negates it. -/
def propertyClass (name : List Char) : Except PatternFlaw ((Char → Bool) × Bool) :=
  let parts (sep : List Char) :=
    (Text.find? sep name).map fun i => (name.take i, name.drop (i + sep.length))
  let found (negated : Bool) (c : Option (Char → Bool)) :=
    match c with
    | some mem => .ok (mem, negated)
    | none => .error PatternFlaw.unknownProperty
  match parts ['!', '='], parts [':'], parts ['='] with
  | some (p, v), _, _ => found true (valuedClass? p v)
  | none, some (p, v), _ => found false (valuedClass? p v)
  | none, none, some (p, v) => found false (valuedClass? p v)
  | none, none, none => found false (namedClass? name)

/-- A class by its property, behind `\p` or `\P`. -/
def property (f : Flags) (negated : Bool) (s : List Char) :
    Except PatternFlaw ((Char → Bool) × List Char) := do
  let (name, rest) ← match f.skip s with
    | '\x7b' :: rest => untilBrace f (rest.length + 1) rest
    | '\\' :: _ | [] => .error .escape
    | c :: rest => .ok ([c], f.skip rest)
  if !f.unicode then .error .notUtf8
  let (mem, inName) ← propertyClass name
  let folded := foldClass f mem
  .ok (if negated != inName then fun c => !folded c else folded, rest)

/-- The name of a kind of word boundary between braces, behind `\b`. Nothing, if what stands
between the braces begins like a number of repetitions. -/
def boundaryName (f : Flags) : Nat → List Char → Except PatternFlaw (List Char × List Char)
  | 0, _ => .error .escape
  | fuel + 1, s =>
    match f.skip s with
    | [] => .error .escape
    | '\x7d' :: rest => .ok ([], rest)
    | c :: rest =>
      if c.isAlpha || c == '-' then do
        let (name, rest) ← boundaryName f fuel rest
        .ok (c :: name, rest)
      else .error .escape

def wordAnchor (f : Flags) (s : List Char) : Except PatternFlaw (Atom × List Char) :=
  match s with
  | '\x7b' :: rest =>
    match f.skip rest with
    | [] => .error .escape
    | c :: more =>
      if c.isAlpha || c == '-' then do
        let (name, rest) ← boundaryName f (more.length + 2) (c :: more)
        match String.ofList name with
        | "start" => .ok (.anchor (.wordStart (isWordIn f)), rest)
        | "end" => .ok (.anchor (.wordEnd (isWordIn f)), rest)
        | "start-half" => .ok (.anchor (.afterNoWord (isWordIn f)), rest)
        | "end-half" => .ok (.anchor (.beforeNoWord (isWordIn f)), rest)
        | _ => .error .escape
      else .ok (.anchor (.boundary (isWordIn f)), s)
  | _ => .ok (.anchor (.boundary (isWordIn f)), s)

/-- Reads what follows a backslash. -/
def escape (f : Flags) : List Char → Except PatternFlaw (Atom × List Char)
  | [] => .error .escape
  | c :: rest =>
    if c.isDigit then .error .backReference
    else if isEscapable c then .ok (.char c, rest)
    else match letterClass? f c, letterClass? f c.toLower with
      | some mem, _ => .ok (.oneOf mem, rest)
      | none, some mem => do .ok (.oneOf (← complement f mem), rest)
      | none, none =>
        match c with
        | 'x' => do let (c, rest) ← numberedChar f 2 rest; .ok (.char c, rest)
        | 'u' => do let (c, rest) ← numberedChar f 4 rest; .ok (.char c, rest)
        | 'U' => do let (c, rest) ← numberedChar f 8 rest; .ok (.char c, rest)
        | 'p' => do let (mem, rest) ← property f false rest; .ok (.oneOf mem, rest)
        | 'P' => do let (mem, rest) ← property f true rest; .ok (.oneOf mem, rest)
        | 'a' => .ok (.char '\x07', rest)
        | 'f' => .ok (.char '\x0c', rest)
        | 't' => .ok (.char '\t', rest)
        | 'n' => .ok (.char '\n', rest)
        | 'r' => .ok (.char '\r', rest)
        | 'v' => .ok (.char '\x0b', rest)
        | 'A' => .ok (.anchor .textStart, rest)
        | 'z' => .ok (.anchor .textEnd, rest)
        | 'b' => wordAnchor f rest
        | 'B' => .ok (.anchor (.noBoundary (isWordIn f)), rest)
        | '<' => .ok (.anchor (.wordStart (isWordIn f)), rest)
        | '>' => .ok (.anchor (.wordEnd (isWordIn f)), rest)
        | _ => .error .escape

end FaultBench.Pattern

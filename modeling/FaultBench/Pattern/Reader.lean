import FaultBench.Pattern.Bracket

/-!
# Written patterns

`Pattern.read` gives the pattern that a text is the written form of, or the flaw that keeps it from
being one.
-/

namespace FaultBench.Pattern

open FaultBench.Text

/-- A pattern, and how deep other patterns lie within it. -/
structure Part where
  pattern : Pattern
  depth : Nat

/-- What stands in a sequence. -/
inductive Item
  | part (p : Part)
  /-- A change of flags, which cannot be repeated. -/
  | flags

namespace Part

/-- Patterns one after another, which were read in reverse. -/
def sequence (items : List Item) : Part :=
  let parts := items.filterMap fun
    | .part p => some p
    | .flags => none
  match parts with
  | [] => ⟨.empty, 0⟩
  | [p] => if items.length == 1 then p else ⟨p.pattern, p.depth + 1⟩
  | p :: rest =>
    ⟨rest.foldl (fun acc q => .seq q.pattern acc) p.pattern,
      (parts.map Part.depth).foldl max 0 + 1⟩

/-- The sequence of `items`, or one of the branches in front of it, which were read in reverse. -/
def choice (branches : List Part) (items : List Item) : Part :=
  let last := sequence items
  if branches.isEmpty then last
  else
    ⟨branches.foldl (fun acc q => .alt q.pattern acc) last.pattern,
      (branches.map Part.depth).foldl max last.depth + 1⟩

/-- One or more stretches, none or one, and the like. -/
def repeated (p : Part) (f : Pattern → Pattern) : Part := ⟨f p.pattern, p.depth + 1⟩

end Part

/-- What follows an opening parenthesis. -/
inductive GroupHead
  /-- New flags for the rest of the group around the parentheses. -/
  | flags (f : Flags)
  /-- A group with flags of its own. -/
  | group (f : Flags) (name : Option (List Char))

def isNameStart (c : Char) : Bool := c == '_' || isAlphabetic c

def isNameChar (c : Char) : Bool :=
  c == '_' || c == '.' || c == '[' || c == ']' || isAlphanumeric c

/-- The name of a group up to its closing angle bracket. -/
def groupName (f : Flags) (s : List Char) : Except PatternFlaw (GroupHead × List Char) :=
  match s.span (· != '>') with
  | (c :: name, '>' :: rest) =>
    if isNameStart c && name.all isNameChar then .ok (.group f (some (c :: name)), rest)
    else .error .groupName
  | _ => .error .groupName

def groupHead (f : Flags) (s : List Char) : Except PatternFlaw (GroupHead × List Char) :=
  match f.skip s with
  | '?' :: '=' :: _ | '?' :: '!' :: _ => .error .lookAround
  | '?' :: '<' :: '=' :: _ | '?' :: '<' :: '!' :: _ => .error .lookAround
  | '?' :: 'P' :: '<' :: rest => groupName f rest
  | '?' :: '<' :: rest => groupName f rest
  | '?' :: rest =>
    match f.read [] rest with
    | .ok (g, ':' :: rest) => .ok (.group g none, rest)
    | .ok (g, ')' :: after) =>
      if rest.head? == some ')' then .error .nothingToRepeat else .ok (.flags g, after)
    | _ => .error .groupFlags
  | s => .ok (.group f none, s)

/-- The digits of a decimal number, with blanks allowed around it and, where the flags skip them,
in it. -/
def decimalDigits (f : Flags) : Nat → List Char → List Char × List Char
  | fuel + 1, c :: rest =>
    if c.isDigit then
      let (ds, s) := decimalDigits f fuel (f.skip rest)
      (c :: ds, s)
    else ([], c :: rest)
  | _, s => ([], s)

/-- A decimal number of at most 32 bits. `none` where there are no digits. -/
def decimal (f : Flags) (s : List Char) : Except PatternFlaw (Option Nat × List Char) :=
  let (ds, rest) := decimalDigits f (s.length + 1) (s.dropWhile isBlank)
  let n := ds.foldl (fun n c => 10 * n + (c.toNat - 48)) 0
  if n ≤ 0xffffffff then .ok (if ds.isEmpty then none else some n, f.skip (rest.dropWhile isBlank))
  else .error .repetition

/-- How often `p` occurs: at least `least` times and, where `most` is given, at most that often. -/
def occurrences (least : Nat) (most : Option Nat) (p : Pattern) : Pattern :=
  match most with
  | some m => .times p least (m - least)
  | none => .seq (.times p least 0) (.star p)

/-- Reads the numbers of a repetition of which the opening brace was read. -/
def counts (f : Flags) (s : List Char) :
    Except PatternFlaw ((Nat × Option Nat) × List Char) := do
  let (least, rest) ← decimal f (f.skip s)
  match least, rest with
  | some n, '\x7d' :: rest => .ok ((n, some n), rest)
  | some n, ',' :: rest =>
    match f.skip rest with
    | '\x7d' :: rest => .ok ((n, none), rest)
    | rest => do
      let (most, rest) ← decimal f rest
      match most, rest with
      | some m, '\x7d' :: rest => if n ≤ m then .ok ((n, some m), rest) else .error .repetition
      | _, _ => .error .repetition
  | _, _ => .error .repetition

/-- Drops the question mark that makes a repetition prefer few stretches. -/
def dropLazy : List Char → List Char
  | '?' :: rest => rest
  | s => s

/-- What a character stands for that is no operator. -/
def plain (f : Flags) (c : Char) : Pattern :=
  match c with
  | '.' =>
    if f.anyChar then .oneOf fun _ => true
    else if f.returnLines then .oneOf fun c => c != '\n' && c != '\r'
    else .oneOf (· != '\n')
  | '^' =>
    .anchor (if !f.multiLine then .textStart else if f.returnLines then .returnLineStart
      else .lineStart)
  | '$' =>
    .anchor (if !f.multiLine then .textEnd else if f.returnLines then .returnLineEnd else .lineEnd)
  | c => .oneOf (foldClass f (· == c))

/-- The pattern that an escape stands for. -/
def Atom.pattern (f : Flags) : Atom → Pattern
  | .char c => .oneOf (foldClass f (· == c))
  | .oneOf mem => .oneOf mem
  | .anchor a => .anchor a

/-- Reads a group, or the whole text, up to the closing parenthesis that ends it. `branches` and
`items` were read already, in reverse, and `names` are those of all groups so far. -/
def readGroup : Nat → Flags → List (List Char) → List Part → List Item → List Char →
    Except PatternFlaw (Part × List (List Char) × List Char)
  | 0, _, _, _, _, _ => .error .tooDeep
  | fuel + 1, f, names, branches, items, s =>
    let add (p : Part) (rest : List Char) := readGroup fuel f names branches (.part p :: items) rest
    let again (shape : Pattern → Pattern) (rest : List Char) :=
      match items with
      | .part p :: before => readGroup fuel f names branches (.part (p.repeated shape) :: before) rest
      | _ => .error .nothingToRepeat
    match f.skip s with
    | [] => .ok (Part.choice branches items, names, [])
    | ')' :: rest => .ok (Part.choice branches items, names, ')' :: rest)
    | '|' :: rest => readGroup fuel f names (Part.sequence items :: branches) [] rest
    | '(' :: rest => do
      match ← groupHead f rest with
      | (.flags g, rest) => readGroup fuel g names branches (.flags :: items) rest
      | (.group g name, rest) =>
        if name.any names.contains then .error .groupName
        let (inner, names, rest) ← readGroup fuel g (name.toList ++ names) [] [] rest
        match rest with
        | ')' :: rest =>
          readGroup fuel f names branches (.part ⟨inner.pattern, inner.depth + 1⟩ :: items) rest
        | _ => .error .groupUnclosed
    | '[' :: rest => do
      let (part, rest) ← bracket f rest
      add ⟨.oneOf part.mem, part.depth⟩ rest
    | '?' :: rest => again (.times · 0 1) (dropLazy rest)
    | '*' :: rest => again .star (dropLazy rest)
    | '+' :: rest => again (occurrences 1 none) (dropLazy rest)
    | '\x7b' :: rest => do
      let ((least, most), rest) ← counts f rest
      again (occurrences least most) (dropLazy (f.skip rest))
    | '\\' :: rest => do
      let (atom, rest) ← escape f rest
      add ⟨atom.pattern f, 0⟩ rest
    | c :: rest =>
      if c == '.' && !f.unicode then .error .notUtf8 else add ⟨plain f c, 0⟩ rest

/-- How deep patterns may lie in one another. -/
def maxDepth : Nat := 250

/-- How large a pattern may be with its repetitions written out. The limit that this stands for is on
memory, ten mebibytes, so that near to it patterns are refused that fit (long literals), and others
are read that do not (repeated large classes). -/
def maxSize : Nat := 327680

/-- The pattern that a text is the written form of. -/
def read (s : List Char) : Except PatternFlaw Pattern := do
  let (part, _, rest) ← readGroup (s.length + 1) {} [] [] [] s
  if !rest.isEmpty then .error .groupUnopened
  if maxDepth < part.depth then .error .tooDeep
  if maxSize < part.pattern.size then .error .tooLarge
  .ok part.pattern

end FaultBench.Pattern

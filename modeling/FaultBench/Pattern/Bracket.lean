import FaultBench.Pattern.Escape

/-!
# Bracketed classes

A class between brackets: characters, ranges, named classes and classes within it, joined by
union, and by the operators `&&`, `--` and `~~` from left to right.
-/

namespace FaultBench.Pattern

open FaultBench.Text

/-- A class, and how deep other classes lie within it. -/
structure ClassPart where
  mem : Char → Bool
  depth : Nat

inductive ClassOp
  | both
  | without
  | eitherOne

namespace ClassOp

def apply : ClassOp → (Char → Bool) → (Char → Bool) → Char → Bool
  | .both, a, b, c => a c && b c
  | .without, a, b, c => a c && !b c
  | .eitherOne, a, b, c => a c != b c

end ClassOp

namespace ClassPart

/-- The union of the members of a class, which were read in reverse. -/
def union (items : List ClassPart) : ClassPart :=
  match items with
  | [] => ⟨fun _ => false, 0⟩
  | [a] => a
  | items =>
    ⟨fun c => items.any (·.mem c), (items.map ClassPart.depth).foldl max 0 + 1⟩

/-- The operand on the left, if there is one, combined with the one on the right. -/
def combine (f : Flags) : Option (ClassOp × ClassPart) → ClassPart → ClassPart
  | none, right => right
  | some (op, left), right =>
    ⟨op.apply (foldClass f left.mem) (foldClass f right.mem), max left.depth right.depth + 1⟩

/-- The class between the brackets of which `part` was read. -/
def close (f : Flags) (negated : Bool) (part : ClassPart) : Except PatternFlaw ClassPart := do
  let mem := foldClass f part.mem
  let mem ← if negated then complement f mem else .ok mem
  .ok ⟨mem, part.depth + 1⟩

end ClassPart

/-- Reads what follows an opening bracket: whether the class is negated, the hyphens and the
closing bracket that stand for themselves at its start, and the rest. -/
def bracketHead (f : Flags) (s : List Char) :
    Except PatternFlaw (Bool × List ClassPart × List Char) :=
  let (negated, s) := match f.skip s with
    | '^' :: rest => (true, f.skip rest)
    | s => (false, s)
  let (hyphens, s) := leadingHyphens (s.length + 1) s
  match hyphens, s with
  | _, [] => .error .classUnclosed
  | [], ']' :: rest => .ok (negated, [⟨(· == ']'), 0⟩], f.skip rest)
  | hyphens, s => .ok (negated, hyphens, s)
where
  leadingHyphens : Nat → List Char → List ClassPart × List Char
    | fuel + 1, '-' :: rest =>
      let (more, s) := leadingHyphens fuel (f.skip rest)
      (⟨(· == '-'), 0⟩ :: more, s)
    | _, s => ([], s)

/-- The class between `[:` and `:]`, if `s` begins with one; `s` follows an opening bracket. -/
def namedBracket? (s : List Char) : Option (Bool × (Char → Bool) × List Char) :=
  match s with
  | ':' :: rest =>
    let (negated, rest) := match rest with
      | '^' :: more => (true, more)
      | rest => (false, rest)
    match rest.dropWhile (· != ':') with
    | ':' :: ']' :: after =>
      (asciiClass? (String.ofList (rest.takeWhile (· != ':')))).map fun mem => (negated, mem, after)
    | _ => none
  | _ => none

/-- One end of a range, or a member of its own. -/
def bracketAtom (f : Flags) : List Char → Except PatternFlaw (Atom × List Char)
  | [] => .error .classUnclosed
  | '\\' :: rest => escape f rest
  | c :: rest => .ok (.char c, rest)

/-- The next character behind the first one of `s`, with the flags' blanks skipped. -/
def peekBehind (f : Flags) (s : List Char) : Option Char :=
  if f.verbose then
    match s.tail.dropWhile isBlank with
    | '#' :: rest => (rest.dropWhile isBlank).head?
    | rest => rest.head?
  else s.tail.head?

/-- Without Unicode a class holds bytes, and only ASCII characters are one byte each. -/
def classChar (f : Flags) (c : Char) : Except PatternFlaw Char :=
  if f.unicode || c.toNat < 128 then .ok c else .error .notUtf8

/-- A member of a class: a character, a class of its own, or a range. -/
def bracketItem (f : Flags) (s : List Char) : Except PatternFlaw (ClassPart × List Char) := do
  let (first, rest) ← bracketAtom f s
  match f.skip rest with
  | [] => .error .classUnclosed
  | c :: more =>
    let behind := peekBehind f (c :: more)
    if c != '-' || behind == some ']' || behind == some '-' then
      match first with
      | .char a => do
        let a ← classChar f a
        .ok (⟨(· == a), 0⟩, c :: more)
      | .oneOf mem => .ok (⟨mem, 0⟩, c :: more)
      | .anchor _ => .error .classItem
    else do
      let (second, rest) ← bracketAtom f (f.skip more)
      match first, second with
      | .char a, .char b => do
        let a ← classChar f a
        let b ← classChar f b
        if b < a then .error .classItem
        .ok (⟨fun c => a ≤ c && c ≤ b, 0⟩, rest)
      | _, _ => .error .classItem

/-- Reads the rest of a class up to its closing bracket: `left` is the operand in front of the last
operator, `items` the members behind it, in reverse. -/
def bracketBody (f : Flags) (negated : Bool) :
    Nat → Option (ClassOp × ClassPart) → List ClassPart → List Char →
      Except PatternFlaw (ClassPart × List Char)
  | 0, _, _, _ => .error .classUnclosed
  | fuel + 1, left, items, s =>
    let operator (op : ClassOp) (rest : List Char) :=
      bracketBody f negated fuel (some (op, ClassPart.combine f left (ClassPart.union items))) [] rest
    match f.skip s with
    | [] => .error .classUnclosed
    | ']' :: rest => do
      let part ← (ClassPart.combine f left (ClassPart.union items)).close f negated
      .ok (part, rest)
    | '&' :: '&' :: rest => operator .both rest
    | '-' :: '-' :: rest => operator .without rest
    | '~' :: '~' :: rest => operator .eitherOne rest
    | '[' :: rest =>
      match namedBracket? rest with
      | some (inner, mem, after) => do
        let mem := foldClass f mem
        let mem ← if inner then complement f mem else .ok mem
        bracketBody f negated fuel left (⟨mem, 0⟩ :: items) after
      | none => do
        let (inner, first, rest) ← bracketHead f rest
        let (part, rest) ← bracketBody f inner fuel none first rest
        bracketBody f negated fuel left (part :: items) rest
    | c :: rest => do
      let (item, rest) ← bracketItem f (c :: rest)
      bracketBody f negated fuel left (item :: items) rest

/-- Reads a class of which the opening bracket was read. -/
def bracket (f : Flags) (s : List Char) : Except PatternFlaw (ClassPart × List Char) := do
  let (negated, first, rest) ← bracketHead f s
  bracketBody f negated (rest.length + 1) none first rest

end FaultBench.Pattern

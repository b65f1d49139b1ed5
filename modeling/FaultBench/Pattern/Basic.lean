/-!
# Patterns

A pattern describes stretches of a text. `Pattern.before` computes, from a set of places, the
places at which a stretch may begin that ends at one of them; the leftmost occurrence of a pattern
is then the first place in front of any place at all.
-/

namespace FaultBench

/-- What holds at a place of a text, seen from the characters on both sides. -/
inductive Anchor
  | textStart
  | textEnd
  | lineStart
  | lineEnd
  /-- Line ends that are a carriage return, a line feed, or both. -/
  | returnLineStart
  | returnLineEnd
  | boundary (isWord : Char → Bool)
  | noBoundary (isWord : Char → Bool)
  | wordStart (isWord : Char → Bool)
  | wordEnd (isWord : Char → Bool)
  | afterNoWord (isWord : Char → Bool)
  | beforeNoWord (isWord : Char → Bool)

def Anchor.holds (before after : Option Char) : Anchor → Bool
  | .textStart => before.isNone
  | .textEnd => after.isNone
  | .lineStart => before.isNone || before == some '\n'
  | .lineEnd => after.isNone || after == some '\n'
  | .returnLineStart =>
    before.isNone || before == some '\n' || (before == some '\r' && after != some '\n')
  | .returnLineEnd =>
    after.isNone || after == some '\r' || (after == some '\n' && before != some '\r')
  | .boundary w => before.any w != after.any w
  | .noBoundary w => before.any w == after.any w
  | .wordStart w => !before.any w && after.any w
  | .wordEnd w => before.any w && !after.any w
  | .afterNoWord w => !before.any w
  | .beforeNoWord w => !after.any w

inductive Pattern
  | empty
  /-- One character with the given property. -/
  | oneOf (mem : Char → Bool)
  | anchor (a : Anchor)
  | seq (p q : Pattern)
  | alt (p q : Pattern)
  | star (p : Pattern)
  /-- From `least` to `least + more` stretches of `p`. -/
  | times (p : Pattern) (least more : Nat)

namespace Pattern

def char (c : Char) : Pattern := .oneOf (· == c)

/-- The pattern that only the text `s` has. -/
def literal : List Char → Pattern
  | [] => .empty
  | c :: rest => .seq (char c) (literal rest)

/-- The characters on both sides of each place of a text. -/
def surroundings (text : List Char) : List (Option Char × Option Char) :=
  (none :: text.map some).zip (text.map some ++ [none])

/-- Sets of places are lists of truth values, one for each place from the start of the text to
its end. -/
abbrev Places := List Bool

def union (s t : Places) : Places := s.zipWith (· || ·) t

/-- In front of a stretch of characters with the property `mem`, of any length, that ends in `s`. -/
def beforeRun (mem : Char → Bool) : List Char → Places → Places
  | c :: text, b :: s =>
    let rest := beforeRun mem text s
    (b || (mem c && rest.headD false)) :: rest
  | _, s => s

/-- The least set of places that contains `s` and, with a set, what `f` makes of it, if it is
reached in `fuel` steps. -/
def closure (f : Places → Places) : Nat → Places → Places
  | 0, s => s
  | fuel + 1, s =>
    let next := union s (f s)
    if next == s then s else closure f fuel next

/-- `f` applied `n` times. -/
def iterate (f : Places → Places) : Nat → Places → Places
  | 0, s => s
  | n + 1, s => iterate f n (f s)

/-- The places of `text` at which a stretch described by the pattern can begin that ends at a
place of `s`. -/
def before (text : List Char) : Pattern → Places → Places
  | .empty, s => s
  | .oneOf mem, s => text.zipWith (fun c b => mem c && b) s.tail ++ [false]
  | .anchor a, s => (surroundings text).zipWith (fun x b => a.holds x.1 x.2 && b) s
  | .seq p q, s => before text p (before text q s)
  | .alt p q, s => union (before text p s) (before text q s)
  | .star (.oneOf mem), s => beforeRun mem text s
  | .star p, s => closure (before text p) (text.length + 1) s
  | .times p least more, s =>
    iterate (before text p) least (iterate (fun t => union s (before text p t)) more s)

/-- Every place of a text. -/
def everywhere (text : List Char) : Places := List.replicate (text.length + 1) true

/-- The number of characters in front of the leftmost stretch that the pattern describes. -/
def find? (p : Pattern) (text : List Char) : Option Nat :=
  (before text p (everywhere text)).findIdx? id

/-- A measure of the pattern with its repetitions written out, which stands for the memory that it
takes when it is compiled. It is no more than near to that: `n` characters one after the other count
as `2 * n - 1`, which is too much, and a class of characters counts as 1 however many sequences of
bytes it has. -/
def size : Pattern → Nat
  | .empty | .oneOf _ | .anchor _ => 1
  | .seq p q | .alt p q => size p + size q + 1
  | .star p => size p + 1
  | .times p least more => (least + more) * size p + 1

end Pattern

end FaultBench

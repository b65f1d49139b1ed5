/-!
# Unique ids

A unique id is 32 hexadecimal digits. It is written in five groups with hyphens between them.
-/

namespace FaultBench

structure Uuid where
  digits : List (Fin 16)
  length_eq : digits.length = 32
  deriving DecidableEq, Repr

namespace Uuid

def zero : Uuid := ⟨List.replicate 32 0, by simp⟩

/-- The id of random numbers, of each of which the last digit counts. One digit tells that the others
are random, and one of them is restricted. -/
def ofRandom (number : Nat → Nat) : Uuid where
  digits := List.ofFn fun i : Fin 32 =>
    if i = 12 then 4
    else if i = 16 then Fin.ofNat 16 (8 + number i % 4)
    else Fin.ofNat 16 (number i)
  length_eq := List.length_ofFn

def digitChar (d : Fin 16) : Char := Nat.digitChar d

/-- The value of a digit, of which letters may be small or capital. -/
def digit? (c : Char) : Option (Fin 16) :=
  let n := c.toNat
  if c.isDigit then some (Fin.ofNat 16 (n - 48))
  else if 'a' ≤ c && c ≤ 'f' then some (Fin.ofNat 16 (n - 87))
  else if 'A' ≤ c && c ≤ 'F' then some (Fin.ofNat 16 (n - 55))
  else none

/-- The groups of digits behind the first. -/
def groups : List Nat → List Char → List Char
  | [], s => s
  | n :: ns, s => s.take n ++ '-' :: groups ns (s.drop n)

def chars (u : Uuid) : List Char := groups [8, 4, 4, 4] (u.digits.map digitChar)

def text (u : Uuid) : String := String.ofList u.chars

/-- Reads digits alone. -/
def ofDigits? (s : List Char) : Option Uuid :=
  match s.mapM digit? with
  | some ds => if h : ds.length = 32 then some ⟨ds, h⟩ else none
  | none => none

/-- Removes the hyphens between the groups. -/
def joinGroups? : List Nat → List Char → Option (List Char)
  | [], s => some s
  | n :: ns, s =>
    match s.drop n with
    | '-' :: rest => (joinGroups? ns rest).map (s.take n ++ ·)
    | _ => none

/-- Reads digits in groups. -/
def ofGroups? (s : List Char) : Option Uuid := (joinGroups? [8, 4, 4, 4] s).bind ofDigits?

/-- Reads digits alone or in groups; groups may stand between braces or behind `urn:uuid:`. -/
def ofString? (s : String) : Option Uuid :=
  let cs := s.toList
  if cs.length = 32 then ofDigits? cs
  else if cs.length = 36 then ofGroups? cs
  else if cs.length = 38 then
    match cs with
    | '\x7b' :: rest => if rest.getLast? == some '\x7d' then ofGroups? rest.dropLast else none
    | _ => none
  else if cs.length = 45 && "urn:uuid:".toList.isPrefixOf cs then ofGroups? (cs.drop 9)
  else none

end Uuid

end FaultBench

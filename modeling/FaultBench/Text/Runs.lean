/-!
# Runs of code points

A property that is constant on long runs of code points is held as the starts of its runs and
looked up by bisection. A set of code points is held as its ranges.
-/

namespace FaultBench.Text

/-- The words of a text, which stand between blanks and line feeds. -/
def words (s : String) : List String :=
  ((s.splitOn "\n").flatMap (·.splitOn " ")).filter (· != "")

/-- A property of code points: run `i` begins at `starts[i]` and has the value `values[i]`. -/
structure Runs (α : Type) where
  starts : Array Nat
  values : Array α

/-- The greatest index below `hi` whose start is at most `n`, if there is one at `lo` or after. -/
def bisect (starts : Array Nat) (n : Nat) : Nat → Nat → Nat → Nat
  | 0, lo, _ => lo
  | fuel + 1, lo, hi =>
    if hi ≤ lo + 1 then lo
    else
      let mid := (lo + hi) / 2
      if starts.getD mid 0 ≤ n then bisect starts n fuel mid hi else bisect starts n fuel lo mid

namespace Runs

variable {α : Type}

def empty : Runs α := ⟨#[], #[]⟩

def get? (r : Runs α) (n : Nat) : Option α :=
  r.values[bisect r.starts n r.starts.size 0 r.starts.size]?

def push (r : Runs α) (start : Nat) (v : α) : Runs α := ⟨r.starts.push start, r.values.push v⟩

/-- A decimal number at the head of a text, and what follows it. -/
def leadingNat (s : List Char) : Nat × List Char :=
  ((s.takeWhile Char.isDigit).foldl (fun n c => 10 * n + (c.toNat - 48)) 0,
    s.dropWhile Char.isDigit)

/-- Adds `count` runs of one code point each, of the values in turn. -/
def alternate (vs : List α) : Nat → Runs α × Nat → Runs α × Nat
  | 0, acc => acc
  | count + 1, acc =>
    alternate vs count (vs.foldl (fun (r, at_) v => (r.push at_ v, at_ + 1)) acc)

/-- The codes of a word, `width` characters each. -/
def codes (width : Nat) (s : List Char) : List String :=
  if _ : width = 0 ∨ s = [] then []
  else String.ofList (s.take width) :: codes width (s.drop width)
  termination_by s.length
  decreasing_by
    rename_i h
    have : 0 < s.length := List.length_pos_iff.2 fun e => h (Or.inr e)
    simp only [List.length_drop]
    omega

/-- One word of a table: a length and a value, or a count and the values that alternate. -/
def addWord (width : Nat) (read : String → Option α) (acc : Runs α × Nat) (word : List Char) :
    Runs α × Nat :=
  let (count, rest) := leadingNat word
  match (codes width rest).filterMap read with
  | [v] => (acc.1.push acc.2 v, acc.2 + count)
  | vs => alternate vs count acc

/-- The table that a text describes, its words separated by blanks. A value has `width`
characters. -/
def ofWords (width : Nat) (read : String → Option α) (s : String) : Runs α :=
  ((words s).foldl (fun acc w => addWord width read acc w.toList) (empty, 0)).1

def ofText (read : String → Option α) (s : String) : Runs α := ofWords 2 read s

end Runs

/-- A set of code points: the range at an even index begins a stretch inside the set, the one at
an odd index ends it. -/
structure CodeSet where
  bounds : Array Nat

namespace CodeSet

def mem (s : CodeSet) (n : Nat) : Bool :=
  match s.bounds[0]? with
  | none => false
  | some first => first ≤ n && bisect s.bounds n s.bounds.size 0 s.bounds.size % 2 == 0

def hexValue (c : Char) : Nat :=
  if c.isDigit then c.toNat - 48 else c.toNat - 87

/-- The set that a text of hexadecimal ranges describes: `41-5a 61` holds `41` to `5a` and `61`. -/
def ofText (s : String) : CodeSet :=
  ⟨((words s).foldl (fun acc w =>
    match (w.splitOn "-").map (fun d => d.toList.foldl (fun n c => 16 * n + hexValue c) 0) with
    | [a] => (acc.push a).push (a + 1)
    | [a, b] => (acc.push a).push (b + 1)
    | _ => acc) #[])⟩

end CodeSet

end FaultBench.Text

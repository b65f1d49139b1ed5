import FaultBench.Data.Datum

/-!
# Numbers in JSON

Integers of 64 bits keep their value. Of other numbers it only matters whether they lie within the
range of the floating point numbers of 64 bits.
-/

namespace FaultBench.Json

def digitsValue (ds : List Char) : Nat := ds.foldl (fun n c => 10 * n + (c.toNat - 48)) 0

/-- The digits at the head of a text. -/
def digits (s : List Char) : List Char × List Char := s.span Char.isDigit

/-- A number in decimal digits: those in front of the point, those behind it, and an exponent. -/
structure Numeral where
  whole : List Char
  fraction : List Char := []
  exponent : Int := 0

namespace Numeral

/-- The numeral reaches half the gap above the largest floating point number, from where numbers are
rounded to infinity. -/
def isInfinite (n : Numeral) : Bool :=
  let ds := (n.whole ++ n.fraction).dropWhile (· == '0')
  let scale := n.exponent - n.fraction.length
  let magnitude := ds.length + scale
  if ds.isEmpty || magnitude < 309 then false
  else if 309 < magnitude then true
  else 0x3fffffffffffff <<< 970 * Nat.pow 10 (-scale).toNat
    ≤ digitsValue ds * Nat.pow 10 scale.toNat

/-- An integer where it has 64 bits, with or without a sign. -/
def integer (negative : Bool) (n : Nat) : Datum :=
  if negative then if n = 0 ∨ 0x8000000000000000 < n then .real else .int (-n)
  else if n ≤ 0xffffffffffffffff then .int n else .real

end Numeral

/-- The text behind a fraction, and its digits. -/
def fraction? : List Char → Option (Option (List Char) × List Char)
  | '.' :: rest =>
    let (ds, rest) := digits rest
    if ds.isEmpty then none else some (some ds, rest)
  | s => some (none, s)

/-- The text behind an exponent, and its value. -/
def exponent? : List Char → Option (Option Int × List Char)
  | e :: rest =>
    if e == 'e' || e == 'E' then
      let (negative, rest) := match rest with
        | '-' :: rest => (true, rest)
        | '+' :: rest => (false, rest)
        | rest => (false, rest)
      let (ds, rest) := digits rest
      let n : Int := digitsValue ds
      if ds.isEmpty then none else some (some (if negative then -n else n), rest)
    else some (none, e :: rest)
  | [] => some (none, [])

/-- The number at the head of a text. -/
def number? (s : List Char) : Option (Datum × List Char) := do
  let (negative, s) := match s with
    | '-' :: rest => (true, rest)
    | s => (false, s)
  let (ds, rest) := digits s
  if ds.isEmpty || (ds.head? == some '0' && ds != ['0']) then none
  let (fraction, rest) ← fraction? rest
  let (exponent, rest) ← exponent? rest
  let isReal := fraction.isSome || exponent.isSome
  let d :=
    if Numeral.isInfinite ⟨ds, fraction.getD [], exponent.getD 0⟩ then .broken
    else if isReal then .real
    else Numeral.integer negative (digitsValue ds)
  return (d, rest)

end FaultBench.Json

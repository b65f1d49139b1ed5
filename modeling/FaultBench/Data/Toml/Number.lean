import FaultBench.Data.Datum
import FaultBench.Time

/-!
# Numbers and moments in TOML
-/

namespace FaultBench.Toml

/-- The digits at the head of a text. An underscore may stand between two digits. -/
def digits (isDigit : Char → Bool) : List Char → List Char × List Char
  | c :: rest =>
    if isDigit c then
      let (ds, rest') := more rest
      (c :: ds, rest')
    else ([], c :: rest)
  | [] => ([], [])
where
  more : List Char → List Char × List Char
    | '_' :: c :: rest =>
      if isDigit c then
        let (ds, rest') := more rest
        (c :: ds, rest')
      else ([], '_' :: c :: rest)
    | c :: rest =>
      if isDigit c then
        let (ds, rest') := more rest
        (c :: ds, rest')
      else ([], c :: rest)
    | [] => ([], [])

def digitValue (c : Char) : Nat :=
  if c.isDigit then c.toNat - 48 else if c.isLower then c.toNat - 87 else c.toNat - 55

def valueOf (base : Nat) (ds : List Char) : Nat := ds.foldl (fun n c => base * n + digitValue c) 0

def isHexDigit (c : Char) : Bool := c.isDigit || ('a' ≤ c && c ≤ 'f') || ('A' ≤ c && c ≤ 'F')

/-- An integer of 64 bits. -/
def bounded? (n : Int) : Option Datum :=
  if -0x8000000000000000 ≤ n ∧ n ≤ 0x7fffffffffffffff then some (.int n) else none

/-- An integer that is not written in decimal digits. -/
def based? (base : Nat) (isDigit : Char → Bool) (s : List Char) : Option (Datum × List Char) :=
  let (ds, rest) := digits isDigit s
  if ds.isEmpty then none else (bounded? (valueOf base ds)).map (·, rest)

/-- The text behind a fraction and an exponent, and whether there were any. -/
def fraction? (s : List Char) : Option (Bool × List Char) := do
  let (isReal, s) ← match s with
    | '.' :: rest => match digits Char.isDigit rest with
      | ([], _) => none
      | (_, rest) => some (true, rest)
    | s => some (false, s)
  match s with
  | e :: rest =>
    if e == 'e' || e == 'E' then
      let rest := match rest with
        | '+' :: rest | '-' :: rest => rest
        | rest => rest
      match digits Char.isDigit rest with
      | ([], _) => none
      | (_, rest) => some (true, rest)
    else some (isReal, e :: rest)
  | [] => some (isReal, [])

/-- A number in decimal digits. -/
def decimal? (s : List Char) : Option (Datum × List Char) := do
  let (negative, s) := match s with
    | '-' :: rest => (true, rest)
    | '+' :: rest => (false, rest)
    | s => (false, s)
  match s with
  | 'i' :: 'n' :: 'f' :: rest | 'n' :: 'a' :: 'n' :: rest => some (.real, rest)
  | s =>
    let (ds, rest) := match s with
      | '0' :: rest => (['0'], rest)
      | s => digits Char.isDigit s
    if ds.isEmpty then none
    let (isReal, rest) ← fraction? rest
    let n : Int := valueOf 10 ds
    let d ← if isReal then some .real else bounded? (if negative then -n else n)
    return (d, rest)

def number? (s : List Char) : Option (Datum × List Char) :=
  match s with
  | '0' :: 'x' :: rest => based? 16 isHexDigit rest
  | '0' :: 'o' :: rest => based? 8 (fun c => '0' ≤ c && c ≤ '7') rest
  | '0' :: 'b' :: rest => based? 2 (fun c => c == '0' || c == '1') rest
  | s => decimal? s

/-! ## Moments -/

/-- A number of exactly `width` digits. -/
def fixed? (width : Nat) (s : List Char) : Option (Nat × List Char) :=
  let ds := s.take width
  if ds.length == width && ds.all Char.isDigit then some (valueOf 10 ds, s.drop width) else none

def mark? (c : Char) : List Char → Option (List Char)
  | d :: rest => if c == d then some rest else none
  | [] => none

def date? (s : List Char) : Option (List Char × List Char) := do
  let (y, s) ← fixed? 4 s
  let (m, s) ← fixed? 2 (← mark? '-' s)
  let (d, s) ← fixed? 2 (← mark? '-' s)
  if (Date.mk y m d).isValid then
    some (Time.padded 4 y ++ '-' :: Time.padded 2 m ++ '-' :: Time.padded 2 d, s)
  else none

/-- A fraction of a second in nine digits, less the zeros at its end. -/
def secondFraction? : List Char → Option (List Char × List Char)
  | '.' :: rest =>
    let (ds, rest) := rest.span Char.isDigit
    let kept := ((ds.take 9).reverse.dropWhile (· == '0')).reverse
    if ds.isEmpty then none else some (if kept.isEmpty then [] else '.' :: kept, rest)
  | s => some ([], s)

def clock? (s : List Char) : Option (List Char × List Char) := do
  let (h, s) ← fixed? 2 s
  let (m, s) ← fixed? 2 (← mark? ':' s)
  let (sec, s) ← fixed? 2 (← mark? ':' s)
  let (frac, s) ← secondFraction? s
  if h ≤ 23 && m ≤ 59 && sec ≤ 60 then
    some (Time.padded 2 h ++ ':' :: Time.padded 2 m ++ ':' :: Time.padded 2 sec ++ frac, s)
  else none

def offset? : List Char → Option (List Char × List Char)
  | 'Z' :: rest | 'z' :: rest => some (['Z'], rest)
  | sign :: rest => do
    if sign != '+' && sign != '-' then none
    let (h, s) ← fixed? 2 rest
    let (m, s) ← fixed? 2 (← mark? ':' s)
    if h ≤ 23 && m ≤ 59 then some (sign :: Time.padded 2 h ++ ':' :: Time.padded 2 m, s) else none
  | [] => none

/-- A date with or without a time of day, or a time of day. -/
def moment? (s : List Char) : Option (Datum × List Char) :=
  match date? s with
  | some (date, rest) =>
    let withClock : Option (List Char × List Char) := do
      let c ← rest.head?
      if c != 'T' && c != 't' && c != ' ' then none
      let (clock, rest) ← clock? rest.tail
      let (offset, rest) := (offset? rest).getD ([], rest)
      return (date ++ 'T' :: clock ++ offset, rest)
    let (text, rest) := withClock.getD (date, rest)
    some (.moment (String.ofList text), rest)
  | none => (clock? s).map fun (text, rest) => (.moment (String.ofList text), rest)

end FaultBench.Toml

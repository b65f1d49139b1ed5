import FaultBench.Text.Blank

/-!
# Points in time

A point in time is a date and a time of day in UTC, exact to a nanosecond. Where a minute has a
61st second, that second counts as the 60th with more than a billion nanoseconds.
-/

namespace FaultBench

structure Date where
  year : Int
  month : Nat
  day : Nat
  deriving DecidableEq, Repr

structure Time where
  date : Date
  /-- The seconds since midnight. -/
  second : Nat
  nano : Nat
  deriving DecidableEq, Repr

namespace Date

def isLeapYear (y : Int) : Bool := y % 4 == 0 && (y % 100 != 0 || y % 400 == 0)

def daysInMonth (y : Int) : Nat → Nat
  | 2 => if isLeapYear y then 29 else 28
  | 4 | 6 | 9 | 11 => 30
  | _ => 31

def minYear : Int := -262143
def maxYear : Int := 262142

/-- There is such a day. -/
def isValid (d : Date) : Bool :=
  minYear ≤ d.year && d.year ≤ maxYear && 1 ≤ d.month && d.month ≤ 12 && 1 ≤ d.day &&
    d.day ≤ daysInMonth d.year d.month

/-- The day after. -/
def next (d : Date) : Date :=
  if d.day < daysInMonth d.year d.month then { d with day := d.day + 1 }
  else if d.month < 12 then ⟨d.year, d.month + 1, 1⟩
  else ⟨d.year + 1, 1, 1⟩

/-- The day before. -/
def prev (d : Date) : Date :=
  if 1 < d.day then { d with day := d.day - 1 }
  else if 1 < d.month then ⟨d.year, d.month - 1, daysInMonth d.year (d.month - 1)⟩
  else ⟨d.year - 1, 12, 31⟩

end Date

namespace Time

def secondsPerDay : Int := 86400

/-- The point in time that has this local time where clocks are `offset` seconds ahead of UTC, by
less than a day. -/
def ofLocal (date : Date) (second nano : Nat) (offset : Int) : Time :=
  let s := (second : Int) - offset
  if s < 0 then ⟨date.prev, (s + secondsPerDay).toNat, nano⟩
  else if s < secondsPerDay then ⟨date, s.toNat, nano⟩
  else ⟨date.next, (s - secondsPerDay).toNat, nano⟩

/-- The point in time a number of seconds after the beginning of the year 1970. -/
def ofEpoch (seconds nano : Nat) : Time :=
  ⟨Nat.repeat Date.next (seconds / 86400) ⟨1970, 1, 1⟩, seconds % 86400, nano⟩

/-! ## Writing -/

/-- At least `width` digits. -/
def padded (width n : Nat) : List Char :=
  let ds := (toString n).toList
  List.replicate (width - ds.length) '0' ++ ds

/-- Years have four digits. Those that need a sign or more digits are written with a sign. -/
def yearChars (y : Int) : List Char :=
  if 0 ≤ y ∧ y ≤ 9999 then padded 4 y.toNat
  else (if y < 0 then '-' else '+') :: padded 4 y.natAbs

/-- The fraction of a second in three, six or nine digits, or none. -/
def fractionChars (n : Nat) : List Char :=
  if n = 0 then []
  else if n % 1000000 = 0 then '.' :: padded 3 (n / 1000000)
  else if n % 1000 = 0 then '.' :: padded 6 (n / 1000)
  else '.' :: padded 9 n

def leapNanos : Nat := 1000000000

/-- Date and time of day, with `zone` behind them. -/
def chars (t : Time) (zone : String) : List Char :=
  let (second, nano) :=
    if leapNanos ≤ t.nano then (t.second % 60 + 1, t.nano - leapNanos) else (t.second % 60, t.nano)
  yearChars t.date.year ++ '-' :: padded 2 t.date.month ++ '-' :: padded 2 t.date.day ++
    'T' :: padded 2 (t.second / 3600) ++ ':' :: padded 2 (t.second / 60 % 60) ++
    ':' :: padded 2 second ++ fractionChars nano ++ zone.toList

def text (t : Time) (zone : String) : String := String.ofList (t.chars zone)

/-! ## Reading -/

/-- A number of one to `most` digits, and what follows it. -/
def number? (most : Nat) (s : List Char) : Option (Nat × List Char) :=
  let ds := (s.take most).takeWhile Char.isDigit
  if ds.isEmpty then none
  else some (ds.foldl (fun n c => 10 * n + (c.toNat - 48)) 0, s.drop ds.length)

/-- A number as in `number?` behind any blanks. -/
def field? (most : Nat) (s : List Char) : Option (Nat × List Char) := number? most (Text.trimStart s)

def year? (s : List Char) : Option (Int × List Char) :=
  match Text.trimStart s with
  | '-' :: rest => (number? rest.length rest).map fun (n, rest) => (-(n : Int), rest)
  | '+' :: rest => (number? rest.length rest).map fun (n, rest) => ((n : Int), rest)
  | s => (number? 4 s).map fun (n, rest) => ((n : Int), rest)

/-- What follows the mark `c` behind any blanks. -/
def mark? (c : Char) (s : List Char) : Option (List Char) :=
  match Text.trimStart s with
  | d :: rest => if d == c then some rest else none
  | [] => none

def date? (s : List Char) : Option (Date × List Char) := do
  let (year, s) ← year? s
  let (month, s) ← field? 2 (← mark? '-' s)
  let (day, s) ← field? 2 (← mark? '-' s)
  let d : Date := ⟨year, month, day⟩
  if d.isValid then some (d, s) else none

/-- The nanoseconds of a fraction, if there is one. Digits behind the ninth are dropped. -/
def fraction? : List Char → Option (Nat × List Char)
  | '.' :: rest => do
    let (n, more) ← number? 9 rest
    return (n * Nat.pow 10 (9 - (rest.length - more.length)), more.dropWhile Char.isDigit)
  | s => some (0, s)

/-- A time of day: seconds since midnight and nanoseconds. -/
def clock? (s : List Char) : Option ((Nat × Nat) × List Char) := do
  let (hour, s) ← field? 2 s
  let (minute, s) ← field? 2 (← mark? ':' s)
  let (second, s) ← field? 2 (← mark? ':' s)
  let (nano, s) ← fraction? s
  if 23 < hour || 59 < minute || 60 < second then none
  else if second = 60 then
    return ((hour * 3600 + minute * 60 + 59, nano + leapNanos), s)
  else return ((hour * 3600 + minute * 60 + second, nano), s)

/-- How many seconds clocks are ahead of UTC. -/
def offset? (s : List Char) : Option (Int × List Char) :=
  match s with
  | 'Z' :: rest | 'z' :: rest => some (0, rest)
  | sign :: rest => do
    let negative ← if sign == '+' then some false
      else if sign == '-' || sign == '−' then some true else none
    let (hours, more) ← number? 2 rest
    let more' := more.dropWhile fun c => c == ':' || Text.isBlank c
    let (minutes, after) ← number? 2 more'
    let n : Int := hours * 3600 + minutes * 60
    if rest.length - more.length = 2 && more'.length - after.length = 2 && minutes < 60 &&
        n < secondsPerDay then
      return (if negative then -n else n, after)
    else none
  | [] => none

/-- A zone: an offset, or the word for none. -/
def zone? (s : List Char) : Option (Int × List Char) :=
  if (s.take 3).map Char.toUpper == ['U', 'T', 'C'] then some (0, s.drop 3) else offset? s

/-- The point in time that a text gives as a date, a time of day and a zone. -/
def ofString? (s : String) : Option Time := do
  let (date, s) ← date? s.toList
  match s with
  | c :: s =>
    if c != 't' && c != 'T' && c != ' ' then none
    let ((second, nano), s) ← clock? s
    let (offset, s) ← zone? (Text.trimStart s)
    if !(Text.trimStart s).isEmpty then none
    let t := ofLocal date second nano offset
    if t.date.isValid then some t else none
  | [] => none

end Time

end FaultBench

import FaultBench.Data.Json.Number

/-!
# Reading JSON

`Json.read?` reads a text that is one JSON value. What is well formed and still has no value, such as
a text with half a surrogate pair, is read as broken.
-/

namespace FaultBench.Json

def isSpace (c : Char) : Bool := c == ' ' || c == '\t' || c == '\n' || c == '\r'

def skipSpace (s : List Char) : List Char := s.dropWhile isSpace

def hexDigit? (c : Char) : Option Nat :=
  if c.isDigit then some (c.toNat - 48)
  else if 'a' ≤ c && c ≤ 'f' then some (c.toNat - 87)
  else if 'A' ≤ c && c ≤ 'F' then some (c.toNat - 55)
  else none

def hex4? (a b c d : Char) : Option Nat := do
  return ((← hexDigit? a) * 16 + (← hexDigit? b)) * 256 + (← hexDigit? c) * 16 + (← hexDigit? d)

/-- The character that a backslash and a letter stand for. -/
def simpleEscape? : Char → Option Char
  | '"' => some '"'
  | '\\' => some '\\'
  | '/' => some '/'
  | 'b' => some '\x08'
  | 'f' => some '\x0c'
  | 'n' => some '\n'
  | 'r' => some '\r'
  | 't' => some '\t'
  | _ => none

/-- The numbers of the characters up to the closing quote. An escape may give half a surrogate
pair. -/
def units? : List Char → Option (List Nat × List Char)
  | [] => none
  | '"' :: rest => some ([], rest)
  | '\\' :: 'u' :: a :: b :: c :: d :: rest => do
    let n ← hex4? a b c d
    let (ns, rest) ← units? rest
    return (n :: ns, rest)
  | '\\' :: e :: rest => do
    let c ← simpleEscape? e
    let (ns, rest) ← units? rest
    return (c.toNat :: ns, rest)
  | c :: rest =>
    if c.toNat < 0x20 then none
    else do
      let (ns, rest) ← units? rest
      return (c.toNat :: ns, rest)

def isHighHalf (n : Nat) : Bool := 0xD800 ≤ n && n ≤ 0xDBFF
def isLowHalf (n : Nat) : Bool := 0xDC00 ≤ n && n ≤ 0xDFFF

/-- The characters of a text, where no half of a pair stands alone. -/
def join? : List Nat → Option (List Char)
  | [] => some []
  | n :: rest =>
    if isHighHalf n then
      match rest with
      | m :: rest =>
        if isLowHalf m then
          (join? rest).map (Char.ofNat (0x10000 + (n - 0xD800) * 0x400 + (m - 0xDC00)) :: ·)
        else none
      | [] => none
    else if isLowHalf n then none
    else (join? rest).map (Char.ofNat n :: ·)

/-- A text of which the opening quote was read. -/
def string? (s : List Char) : Option (Option String × List Char) :=
  (units? s).map fun (ns, rest) => ((join? ns).map String.ofList, rest)

/-- A list or record deeper than this within others is read as broken. -/
def maxDepth : Nat := 127

/-- What is read at the given depth, where it does not lie too deep. -/
def atDepth (depth : Nat) (d : Datum) : Datum := if depth < maxDepth then d else .broken

/-- A record of the given fields, where all their names are whole. -/
def record (kvs : List (Option String × Datum)) : Datum :=
  match kvs.mapM fun kv => kv.1.map (·, kv.2) with
  | some kvs => .fields kvs
  | none => .broken

mutual

/-- A value that lies `depth` deep within others. -/
def value? : Nat → Nat → List Char → Option (Datum × List Char)
  | 0, _, _ => none
  | fuel + 1, depth, s =>
    match skipSpace s with
    | 'n' :: 'u' :: 'l' :: 'l' :: rest => some (.null, rest)
    | 't' :: 'r' :: 'u' :: 'e' :: rest => some (.bool true, rest)
    | 'f' :: 'a' :: 'l' :: 's' :: 'e' :: rest => some (.bool false, rest)
    | '"' :: rest => (string? rest).map fun (s, rest) => (s.elim .broken .text, rest)
    | '[' :: rest =>
      match skipSpace rest with
      | ']' :: rest => some (atDepth depth (.list []), rest)
      | rest => do
        let (x, rest) ← value? fuel (depth + 1) rest
        let (xs, rest) ← elements? fuel (depth + 1) rest
        return (atDepth depth (.list (x :: xs)), rest)
    | '\x7b' :: rest =>
      match skipSpace rest with
      | '\x7d' :: rest => some (atDepth depth (.fields []), rest)
      | rest => do
        let (kv, rest) ← member? fuel (depth + 1) rest
        let (kvs, rest) ← members? fuel (depth + 1) rest
        return (atDepth depth (record (kv :: kvs)), rest)
    | s => number? s

/-- The parts of a list behind its first. -/
def elements? : Nat → Nat → List Char → Option (List Datum × List Char)
  | 0, _, _ => none
  | fuel + 1, depth, s =>
    match skipSpace s with
    | ']' :: rest => some ([], rest)
    | ',' :: rest => do
      let (x, rest) ← value? fuel depth rest
      let (xs, rest) ← elements? fuel depth rest
      return (x :: xs, rest)
    | _ => none

/-- A name, if it is whole, and its value. -/
def member? : Nat → Nat → List Char → Option ((Option String × Datum) × List Char)
  | 0, _, _ => none
  | fuel + 1, depth, s =>
    match skipSpace s with
    | '"' :: rest => do
      let (k, rest) ← string? rest
      match skipSpace rest with
      | ':' :: rest => do
        let (x, rest) ← value? fuel depth rest
        return ((k, x), rest)
      | _ => none
    | _ => none

/-- The parts of a record behind its first. -/
def members? : Nat → Nat → List Char → Option (List (Option String × Datum) × List Char)
  | 0, _, _ => none
  | fuel + 1, depth, s =>
    match skipSpace s with
    | '\x7d' :: rest => some ([], rest)
    | ',' :: rest => do
      let (kv, rest) ← member? fuel depth rest
      let (kvs, rest) ← members? fuel depth rest
      return (kv :: kvs, rest)
    | _ => none

end

/-- The datum that a text is the JSON form of. -/
def read? (s : String) : Option Datum :=
  let cs := s.toList
  match value? (2 * cs.length + 2) 0 cs with
  | some (d, rest) => if (skipSpace rest).isEmpty then some d else none
  | none => none

end FaultBench.Json

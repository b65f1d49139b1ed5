import FaultBench.Data.Toml.Number
import FaultBench.Data.Toml.Table
import FaultBench.Data.Toml.Text

/-!
# Reading TOML

`Toml.read?` reads a text that is a TOML document.
-/

namespace FaultBench.Toml

mutual

def value? : Nat → List Char → Option (Datum × List Char)
  | 0, _ => none
  | fuel + 1, s =>
    match s with
    | '"' :: _ | '\'' :: _ => (text? s).map fun (cs, rest) => (.text (String.ofList cs), rest)
    | '[' :: rest => do
      let (xs, rest) ← items? fuel rest
      return (.list xs, rest)
    | '\x7b' :: rest =>
      match skipSpace rest with
      | '\x7d' :: rest => some (.fields [], rest)
      | rest => do
        let (entries, rest) ← pairs? fuel [] rest
        return (.fields (toFields entries), rest)
    | 't' :: 'r' :: 'u' :: 'e' :: rest => some (.bool true, rest)
    | 'f' :: 'a' :: 'l' :: 's' :: 'e' :: rest => some (.bool false, rest)
    | s => (moment? s).or (number? s)

/-- The items of a list up to its closing bracket. -/
def items? : Nat → List Char → Option (List Datum × List Char)
  | 0, _ => none
  | fuel + 1, s =>
    match skipLines (s.length + 1) s with
    | ']' :: rest => some ([], rest)
    | s => do
      let (x, rest) ← value? fuel s
      match skipLines (rest.length + 1) rest with
      | ']' :: rest => some ([x], rest)
      | ',' :: rest => do
        let (xs, rest) ← items? fuel rest
        return (x :: xs, rest)
      | _ => none

/-- The entries of a table within braces, added to those read before. -/
def pairs? : Nat → Entries → List Char → Option (Entries × List Char)
  | 0, _, _ => none
  | fuel + 1, entries, s => do
    let (key, rest) ← key? (s.length + 1) s
    match rest with
    | '=' :: rest => do
      let (x, rest) ← value? fuel (skipSpace rest)
      let entries ← addPair key x entries
      match skipSpace rest with
      | '\x7d' :: rest => some (entries, rest)
      | ',' :: rest => pairs? fuel entries rest
      | _ => none
    | _ => none

end

/-- The lines of a document, added to the entries read before; `here` is the last header. -/
def lines? : Nat → List String → Entries → List Char → Option Entries
  | 0, _, _, _ => none
  | fuel + 1, here, entries, s =>
    match skipSpace s with
    | [] => some entries
    | '#' :: rest => do lines? fuel here entries (← lineEnd? ('#' :: rest))
    | '[' :: '[' :: rest => do
      let (key, rest) ← key? (rest.length + 1) rest
      match rest with
      | ']' :: ']' :: rest => do
        let rest ← lineEnd? rest
        lines? fuel key (← appendTable key entries) rest
      | _ => none
    | '[' :: rest => do
      let (key, rest) ← key? (rest.length + 1) rest
      match rest with
      | ']' :: rest => do
        let rest ← lineEnd? rest
        lines? fuel key (← openTable key entries) rest
      | _ => none
    | s =>
      match newline? s with
      | some rest => lines? fuel here entries rest
      | none => do
        let (key, rest) ← key? (s.length + 1) s
        match rest with
        | '=' :: rest => do
          let rest := skipSpace rest
          let (x, rest) ← value? (rest.length + 1) rest
          let rest ← lineEnd? rest
          lines? fuel here (← alter false (fun _ => addPair key x) here false entries) rest
        | _ => none

/-- The datum of a text that is a document. A mark of the byte order in front of it is skipped. -/
def read? (s : String) : Option Datum :=
  let cs := s.toList
  let cs := if cs.head? == some (Char.ofNat 0xFEFF) then cs.tail else cs
  (lines? (cs.length + 1) [] [] cs).map fun entries => .fields (toFields entries)

end FaultBench.Toml

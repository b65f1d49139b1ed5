import FaultBench.Data.Datum

/-!
# Tables

A document is a tree of tables. A table is defined by its header, or by the keys of its entries, or
it only stands between others; each of them can be extended in its own way alone.
-/

namespace FaultBench.Toml

inductive Node
  /-- A value, which cannot be extended. -/
  | value (d : Datum)
  /-- `implicit`: no header has defined the table. `dotted`: the keys of its entries have. -/
  | table (implicit dotted : Bool) (entries : List (String × Node))
  /-- The tables under one header, each with its entries. -/
  | tables (all : List (List (String × Node)))

abbrev Entries := List (String × Node)

/-- Replaces what stands under a name, or adds it at the end. -/
def setEntry (name : String) (node : Node) : Entries → Entries
  | [] => [(name, node)]
  | (k, n) :: rest => if k == name then (k, node) :: rest else (k, n) :: setEntry name node rest

/-- Changes the table that a path of names leads to. A table that is missing on the way is made; the
last of several tables is taken. Under `dotted` no table on the way may have a header. `f` is given
the table's own `dotted` and its entries. -/
def alter (dotted : Bool) (f : Bool → Entries → Option Entries) :
    List String → Bool → Entries → Option Entries
  | [], here, entries => f here entries
  | name :: path, _, entries =>
    match entries.lookup name with
    | none => do
      let inner ← alter dotted f path dotted []
      return setEntry name (.table true dotted inner) entries
    | some (.value _) => none
    | some (.tables all) => do
      let inner ← alter dotted f path false (all.getLast?.getD [])
      return setEntry name (.tables (all.dropLast ++ [inner])) entries
    | some (.table implicit dotted' inner) =>
      if dotted && !implicit then none
      else do
        let inner ← alter dotted f path dotted' inner
        return setEntry name (.table implicit dotted' inner) entries

/-- Adds a value under a name that is not taken. Entries under dotted keys stay apart from those of
tables that have no such keys. -/
def addValue (isSimple : Bool) (name : String) (d : Datum) (dotted : Bool) (entries : Entries) :
    Option Entries :=
  if dotted == isSimple || (entries.lookup name).isSome then none
  else some (entries ++ [(name, .value d)])

/-- Adds a value under a key to the entries of a table that has a header. -/
def addPair (key : List String) (d : Datum) (entries : Entries) : Option Entries := do
  let name ← key.getLast?
  alter true (addValue (key.length == 1) name d) key.dropLast false entries

/-- Opens the table of a header, which no header has opened. -/
def openTable (key : List String) (entries : Entries) : Option Entries := do
  let name ← key.getLast?
  let here (_ : Bool) (es : Entries) : Option Entries :=
    match es.lookup name with
    | none => some (es ++ [(name, .table false false [])])
    | some (.table true false inner) => some (setEntry name (.table false false inner) es)
    | some _ => none
  alter false here key.dropLast false entries

/-- Adds a table under the header of several. -/
def appendTable (key : List String) (entries : Entries) : Option Entries := do
  let name ← key.getLast?
  let here (_ : Bool) (es : Entries) : Option Entries :=
    match es.lookup name with
    | none => some (es ++ [(name, .tables [[]])])
    | some (.tables all) => some (setEntry name (.tables (all ++ [[]])) es)
    | some _ => none
  alter false here key.dropLast false entries

mutual

def Node.toDatum : Node → Datum
  | .value d => d
  | .table _ _ entries => .fields (toFields entries)
  | .tables all => .list (toList all)

def toFields : List (String × Node) → List (String × Datum)
  | [] => []
  | (k, n) :: rest => (k, n.toDatum) :: toFields rest

def toList : List (List (String × Node)) → List Datum
  | [] => []
  | es :: rest => .fields (toFields es) :: toList rest

end

end FaultBench.Toml

import FaultBench.Data.Datum

/-!
# Records

A record is read from named fields in any order, or from a list of its values in the order of its
fields. Formats differ in a few points, which a `Dialect` names.
-/

namespace FaultBench

/-- The points in which data of different origin are read differently. -/
structure Dialect where
  /-- A list must not be longer than the record that is read from it. -/
  closedLists : Bool
  /-- What may stand for a value that carries nothing. -/
  isUnit : Datum → Bool

namespace Dialect

/-- Data that stand in a JSON text. -/
def json : Dialect where
  closedLists := true
  isUnit
    | .null => true
    | _ => false

/-- Data within a record of JSON that is read as a whole before its parts are. -/
def gathered : Dialect where
  closedLists := true
  isUnit
    | .null => true
    | .fields [] => true
    | _ => false

/-- Data that stand in a configuration. -/
def config : Dialect where
  closedLists := false
  isUnit
    | .fields [] => true
    | .list [] => true
    | _ => false

end Dialect

/-- A way to read a value; there is none for data of another shape. -/
abbrev Decoder (α : Type) := Dialect → Datum → Option α

namespace Decoder

def text : Decoder String
  | _, .text s => some s
  | _, _ => none

def bool : Decoder Bool
  | _, .bool b => some b
  | _, _ => none

/-- An integer within bounds. -/
def intIn (lo hi : Int) : Decoder Int
  | _, .int n => if lo ≤ n ∧ n ≤ hi then some n else none
  | _, _ => none

def int32 : Decoder Int := intIn (-0x80000000) 0x7fffffff
def int64 : Decoder Int := intIn (-0x8000000000000000) 0x7fffffffffffffff
def nat32 : Decoder Nat := fun d x => (intIn 0 0xffffffff d x).map Int.toNat
def nat64 : Decoder Nat := fun d x => (intIn 0 0xffffffffffffffff d x).map Int.toNat

def option {α : Type} (f : Decoder α) : Decoder (Option α)
  | _, .null => some none
  | d, x => (f d x).map some

def list {α : Type} (f : Decoder α) : Decoder (List α)
  | d, .list xs => xs.mapM (f d)
  | _, _ => none

/-- What `f` makes of the value. -/
def bind {α β : Type} (g : Decoder α) (f : α → Option β) : Decoder β := fun d x => (g d x).bind f

/-- One of several values by its name, alone or with a value that carries nothing. -/
def choice {α : Type} (all : List α) (name : α → String) : Decoder α
  | _, .text s => all.find? (name · == s)
  | d, .fields [(s, x)] => if d.isUnit x then all.find? (name · == s) else none
  | _, _ => none

end Decoder

/-- The fields of a record, each with the value that was found for it. -/
structure Slots where
  dialect : Dialect
  /-- The values were found by name. -/
  named : Bool
  values : List (String × Option Datum)

namespace Slots

/-- The value of a field that is given at most once. -/
def atMostOnce (kvs : List (String × Datum)) (name : String) : Option (Option Datum) :=
  match kvs.filter (·.1 == name) with
  | [] => some none
  | [kv] => some (some kv.2)
  | _ => none

/-- The values of the fields with the given names. Other fields are an error in a closed record,
and else are skipped. -/
def ofFields (d : Dialect) (closed : Bool) (names : List String) (kvs : List (String × Datum)) :
    Option Slots := do
  if closed && !kvs.all (names.contains ·.1) then none
  let values ← names.mapM fun name => (atMostOnce kvs name).map (name, ·)
  return ⟨d, true, values⟩

/-- The values of the fields in their order. -/
def ofList (d : Dialect) (names : List String) (xs : List Datum) : Option Slots :=
  if d.closedLists && names.length < xs.length then none
  else
    let given := xs.map some ++ List.replicate names.length none
    some ⟨d, false, names.zip given⟩

def of (d : Dialect) (closed : Bool) (names : List String) : Datum → Option Slots
  | .fields kvs => ofFields d closed names kvs
  | .list xs => ofList d names xs
  | _ => none

/-- What was found for a field. -/
def get (s : Slots) (name : String) : Option Datum := (s.values.lookup name).join

variable {α : Type}

/-- The value of a field that must be given. -/
def required (s : Slots) (name : String) (f : Decoder α) : Option α := (s.get name).bind (f s.dialect)

/-- The value of a field that may be left out, though not of a list. -/
def optional (s : Slots) (name : String) (f : Decoder α) : Option (Option α) :=
  match s.get name with
  | some x => f.option s.dialect x
  | none => if s.named then some none else none

/-- The value of a field that is `default` where it is left out. -/
def orDefault (s : Slots) (name : String) (default : α) (f : Decoder α) : Option α :=
  match s.get name with
  | some x => f s.dialect x
  | none => some default

end Slots

end FaultBench

/-!
# Data

What an exchange format can hold, with no regard to how it is written.
-/

namespace FaultBench

inductive Datum
  | null
  | bool (b : Bool)
  | int (n : Int)
  /-- A number that is no integer of 64 bits. No record holds one, so its value is not kept. -/
  | real
  | text (s : String)
  /-- A date or a time of day, as it is written. -/
  | moment (s : String)
  /-- What is written well and still has no value: a text that holds no sequence of characters, a
  number out of range, a list or record that lies too deep. It may stand where nothing reads it. -/
  | broken
  | list (xs : List Datum)
  /-- Names with values, in the order in which they are written. -/
  | fields (kvs : List (String × Datum))
  deriving Inhabited, Repr

namespace Datum

def nat (n : Nat) : Datum := .int n

/-- The value, or nothing. -/
def ofOption {α : Type} (f : α → Datum) : Option α → Datum
  | none => .null
  | some a => f a

def texts (xs : List String) : Datum := .list (xs.map .text)

/-- The first value of a name. -/
def field? (d : Datum) (name : String) : Option Datum :=
  match d with
  | .fields kvs => kvs.lookup name
  | _ => none

/-- Nothing in it is broken. -/
def isWhole : Datum → Bool
  | .broken => false
  | .list xs => wholeList xs
  | .fields kvs => wholeFields kvs
  | _ => true
where
  wholeList : List Datum → Bool
    | [] => true
    | x :: xs => isWhole x && wholeList xs
  wholeFields : List (String × Datum) → Bool
    | [] => true
    | (_, x) :: kvs => isWhole x && wholeFields kvs

end Datum

end FaultBench

import Std.Data.HashMap
import FaultBench.Config.Kinds

/-!
# Registries

A registry is a catalog while kinds are added to it. The kinds stand in the order in which they were
registered, and an index tells the place of each id. Nothing in the type ties the one to the other:
that they agree is up to the steps that change them.
-/

namespace FaultBench

instance : Hashable KindId := ⟨fun id => hash id.text⟩

structure Registry where
  kinds : Array Kind
  /-- The place of each id among the kinds. -/
  index : Std.HashMap KindId Nat

namespace Registry

def empty : Registry := ⟨#[], ∅⟩

/-- Puts a kind behind all others. -/
def push (r : Registry) (k : Kind) : Registry :=
  ⟨r.kinds.push k, r.index.insert k.id r.kinds.size⟩

/-- The registry of the built-in kinds, whose ids and signatures are not looked at. -/
def builtin : Registry := Kind.builtins.foldl push empty

/-- A step that changes a registry, or fails. -/
abbrev Step (α : Type) := ExceptT SetupError (StateM Registry) α

/-- Adds a kind whose id is not taken and whose signature can be looked for. -/
def register (k : Kind) : Step Unit := do
  let r ← get
  if r.index.contains k.id then throw (.duplicateKind k.id)
  else match k.signature.flaw? with
    | some flaw => throw (.invalidSignature k.id flaw)
    | none => set (r.push k)

/-- Adds kinds in turn, up to one that cannot be added. -/
def registerAll (ks : List Kind) : Step Unit := ks.forM register

/-- What comes of an attempt to register a kind, and the registry after it. -/
def attempt (r : Registry) (k : Kind) : Except SetupError Unit × Registry := (register k).run.run r

/-- The registry of a configuration. -/
def ofConfig (c : Config) : Except SetupError Registry := do
  match (registerAll (← c.kindList)).run.run empty with
  | (.ok (), r) => .ok r
  | (.error e, _) => .error e

/-- The kind of an id. -/
def lookup (r : Registry) (id : KindId) : Except SetupError Kind :=
  match r.index[id]?.bind (r.kinds[·]?) with
  | some k => .ok k
  | none => .error (.unknownKind id)

/-- The kind of an id that is given as a text. -/
def lookupText (r : Registry) (id : String) : Except SetupError Kind := do
  r.lookup (← SetupError.kindId id)

/-- How many kinds were registered before the one of the id. -/
def position? (r : Registry) (id : KindId) : Option Nat := r.index[id]?

/-- The requested kinds in the order in which they were registered, or all if none is requested. -/
def select (r : Registry) (requested : List KindId) : Except SetupError (List Kind) :=
  if requested.isEmpty then .ok r.kinds.toList
  else do
    requested.forM fun id => discard (r.lookup id)
    return r.kinds.toList.filter fun k => requested.contains k.id

end Registry

end FaultBench

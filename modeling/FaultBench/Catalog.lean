import FaultBench.SetupError

/-!
# Catalogs

A catalog holds kinds in the order in which they were registered, each under an id of its own and
with a signature that can be looked for.
-/

namespace FaultBench

structure Catalog where
  kinds : List Kind
  nodup : (kinds.map Kind.id).Nodup
  sound : ∀ k ∈ kinds, k.signature.flaw? = none

namespace Catalog

def empty : Catalog := ⟨[], by simp, by simp⟩

/-- The catalog of the built-in kinds. -/
def builtin : Catalog where
  kinds := Kind.builtins
  nodup := by decide
  sound := by decide

def ids (c : Catalog) : List KindId := c.kinds.map Kind.id

/-- Adds a kind behind all others. -/
def register (c : Catalog) (k : Kind) : Except SetupError Catalog :=
  if hid : k.id ∈ c.kinds.map Kind.id then .error (.duplicateKind k.id)
  else match hs : k.signature.flaw? with
    | some flaw => .error (.invalidSignature k.id flaw)
    | none => .ok {
        kinds := c.kinds ++ [k]
        nodup := by
          rw [List.map_append, List.nodup_append]
          refine ⟨c.nodup, by simp, ?_⟩
          intro a ha b hb
          simp only [List.map_cons, List.map_nil, List.mem_singleton] at hb
          subst hb
          exact fun h => hid (h ▸ ha)
        sound := by
          intro x hx
          rcases List.mem_append.1 hx with h | h
          · exact c.sound x h
          · rw [List.mem_singleton.1 h]; exact hs }

/-- Registers kinds in turn. -/
def registerAll (c : Catalog) (ks : List Kind) : Except SetupError Catalog := ks.foldlM register c

def find? (c : Catalog) (id : KindId) : Option Kind := c.kinds.find? (·.id == id)

/-- The kind of an id. -/
def lookup (c : Catalog) (id : KindId) : Except SetupError Kind :=
  match c.find? id with
  | some k => .ok k
  | none => .error (.unknownKind id)

/-- The kind of an id that is given as a text. -/
def lookupText (c : Catalog) (id : String) : Except SetupError Kind := do
  c.lookup (← SetupError.kindId id)

/-- How many kinds were registered before the one of the id. -/
def position? (c : Catalog) (id : KindId) : Option Nat := c.ids.idxOf? id

/-- The requested kinds in the order of the catalog, or all if none is requested. -/
def select (c : Catalog) (requested : List KindId) : Except SetupError (List Kind) :=
  if requested.isEmpty then .ok c.kinds
  else do
    requested.forM fun id => discard (c.lookup id)
    return c.kinds.filter fun k => requested.contains k.id

end Catalog

end FaultBench

import FaultBench.Catalog
import FaultBench.Config

/-!
# Configured kinds

The catalog of a configuration holds the built-in kinds, with the changes that entries make to
them, and then the kinds of the other entries.
-/

namespace FaultBench

namespace KindEntry

/-- A kind with what the entry sets. -/
def apply (e : KindEntry) (k : Kind) : Kind where
  id := k.id
  faultClass := k.faultClass
  constructs := k.constructs
  signature := ⟨e.signature.getD k.signature.pattern, e.matchMode.getD k.signature.mode⟩
  variant := e.variant.apply k.variant

/-- The kinds with the entry's, whose id is `id`: a change to the one that has the id, or a new one
behind them. -/
def addTo (e : KindEntry) (id : KindId) (kinds : List Kind) : Except SetupError (List Kind) :=
  match kinds.find? (·.id == id) with
  | some k =>
    match e.faultClass with
    | some c =>
      if c = k.faultClass then .ok (change id kinds)
      else .error (.config (.otherClass id k.faultClass c))
    | none => .ok (change id kinds)
  | none =>
    match e.faultClass.or (FaultClass.ofCanonicalId? id.text) with
    | some c => .ok (kinds ++ [{ e.apply (.builtin c) with id := id }])
    | none => .error (.config (.needsClass id))
where
  change (id : KindId) (kinds : List Kind) : List Kind :=
    kinds.map fun k => if k.id = id then e.apply k else k

end KindEntry

namespace Config

/-- The kinds of entries added in turn to `kinds`; `seen` are the ids of the entries before. -/
def addEntries (seen : List KindId) (kinds : List Kind) :
    List KindEntry → Except SetupError (List Kind)
  | [] => .ok kinds
  | e :: es => do
    let id ← SetupError.kindId e.id
    if id ∈ seen then .error (.duplicateKind id)
    else do
      let kinds ← e.addTo id kinds
      addEntries (id :: seen) kinds es

/-- The kinds of a configuration, of which some may have signatures that cannot be looked for. -/
def kindList (c : Config) : Except SetupError (List Kind) :=
  addEntries [] (if c.builtinKinds then Kind.builtins else []) c.kinds

end Config

/-- The catalog of a configuration. -/
def Catalog.ofConfig (c : Config) : Except SetupError Catalog := do
  Catalog.empty.registerAll (← c.kindList)

end FaultBench

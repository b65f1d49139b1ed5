import FaultBench.Catalog
import FaultBench.Data.Json.Writer
import FaultBench.Exchange.Kind
import FaultBench.Report.Text

/-!
# Listings of catalogs
-/

namespace FaultBench.Catalog

def classWidth : Nat := 20

/-- The width of the column of ids. -/
def idWidth (c : Catalog) : Nat := c.kinds.foldl (fun w k => max w k.id.text.length) 2

def tableLine (width : Nat) (id className signature : String) : String :=
  padRight width id ++ "  " ++ padRight classWidth className ++ "  " ++ signature ++ "\n"

/-- A line for each kind, and how many there are. -/
def table (c : Catalog) : String :=
  tableLine c.idWidth "ID" "CLASS" "SIGNATURE" ++
    String.join (c.kinds.map fun k =>
      tableLine c.idWidth k.id.text k.faultClass.name k.signature.describe) ++
    s!"\n{c.kinds.length} kinds registered\n"

/-- The kinds as indented JSON. -/
def json (c : Catalog) : String := Json.write .indented (.list (c.kinds.map Kind.toDatum))

end FaultBench.Catalog

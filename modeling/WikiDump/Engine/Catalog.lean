import WikiDump.Schema.Table
import WikiDump.Text.CaseMap
/-!
# Catalogs of dump tables

A catalog names the dumps a query can read. Names are compared without regard to case: a table
is registered under its lowercase name, and a later table of the same name replaces an earlier
one. A query without a FROM clause reads the only table of the catalog.
-/

namespace WikiDump

namespace Engine

/-- A dump bound to the schema that decodes it. -/
structure DumpTable where
  schema : Table
  data : ByteArray
  deriving Inhabited

/-- Named dump tables; the names are lowercase and distinct. -/
structure Catalog where
  tables : List (String × DumpTable) := []
  deriving Inhabited

namespace Catalog

def setTable (name : String) (t : DumpTable) : List (String × DumpTable) → List (String × DumpTable)
  | [] => [(name, t)]
  | (n, u) :: rest => if n = name then (name, t) :: rest else (n, u) :: setTable name t rest

def register (c : Catalog) (name : String) (t : DumpTable) : Catalog :=
  ⟨setTable (CaseMap.lowerText name) t c.tables⟩

def names (c : Catalog) : List String :=
  (c.tables.map (·.1)).mergeSort (fun a b => decide (a ≤ b))

def getTable (c : Catalog) (name : String) : Except String DumpTable :=
  match c.tables.find? (·.1 == CaseMap.lowerText name) with
  | some (_, t) => .ok t
  | none => .error ("table '" ++ name ++ "' not found")

def default (c : Catalog) : Except String DumpTable :=
  match c.tables with
  | [(_, t)] => .ok t
  | ts => .error ("query has no FROM clause and the catalog holds " ++ toString ts.length ++ " tables")

end Catalog

end Engine

end WikiDump


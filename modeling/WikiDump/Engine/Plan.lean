import WikiDump.Engine.Catalog
import WikiDump.Query.Select
/-!
# Query plans

A plan is a chain of steps over the rows of one dump: a scan, then a filter for the WHERE
clause, then either an aggregation (when the query groups or aggregates) or a projection of the
selected fields, then a limit. A query that reads from a query plans that query first and
chains onto it.

A plan is shown as a tree, one step per line from the last step to the scan, each line led by
`└─ ` and indented three blanks further than the line above.
-/

namespace WikiDump

namespace Engine

/-- A plan: each step reads the rows of the step inside it. -/
inductive Plan where
  | scan (name : String) (table : DumpTable)
  | filter (input : Plan) (expr : Query.Expression)
  | project (input : Plan) (fields : List Query.SelectField)
  | aggregate (input : Plan) (groupBy : String) (fields : List Query.SelectField)
  | limit (input : Plan) (count : Nat)
  deriving Inhabited

namespace Plan

def explain : Plan → String
  | .scan name _ => "Scan(table: " ++ name ++ ")"
  | .filter _ e => "Filter(expression: " ++ e.render ++ ")"
  | .project _ fields => "Project(" ++ ", ".intercalate (fields.map (·.render)) ++ ")"
  | .aggregate _ groupBy fields =>
    "Aggregate(group: " ++ (if groupBy.isEmpty then "global" else groupBy) ++ ", fields: [" ++
      ", ".intercalate (fields.map (·.render)) ++ "])"
  | .limit _ n => "Limit(" ++ toString n ++ ")"

def formatAt (pfx : String) : Plan → String
  | p@(.scan ..) => pfx ++ "└─ " ++ p.explain ++ "\n"
  | p@(.filter input _) => pfx ++ "└─ " ++ p.explain ++ "\n" ++ formatAt (pfx ++ "   ") input
  | p@(.project input _) => pfx ++ "└─ " ++ p.explain ++ "\n" ++ formatAt (pfx ++ "   ") input
  | p@(.aggregate input _ _) => pfx ++ "└─ " ++ p.explain ++ "\n" ++ formatAt (pfx ++ "   ") input
  | p@(.limit input _) => pfx ++ "└─ " ++ p.explain ++ "\n" ++ formatAt (pfx ++ "   ") input

/-- The tree of a plan. -/
def format (p : Plan) : String := formatAt "" p

def aggregates (q : Query.SelectQuery) : Bool :=
  !q.groupBy.isEmpty || q.fields.any (!·.aggregate.isEmpty)

def finish (q : Query.SelectQuery) (input : Plan) : Plan :=
  let filtered := match q.filter with
    | some e => Plan.filter input e
    | none => input
  let shaped :=
    if aggregates q then Plan.aggregate filtered q.groupBy q.fields
    else if q.fields.isEmpty then filtered
    else Plan.project filtered q.fields
  if q.limit ≥ 0 then Plan.limit shaped q.limit.toNat else shaped

/-- Plans a query over a catalog. The input is the inner query, the FROM table, or the only
table of the catalog, scanned under its registered name. -/
def create (c : Catalog) : Query.SelectQuery → Except String Plan
  | q@(.mk _ _ (some inner) _ _ _) => (create c inner).map (finish q)
  | q@(.mk _ fromTable none _ _ _) =>
    if fromTable.isEmpty then
      match c.default with
      | .error e => .error e
      | .ok t => .ok (finish q (.scan ((c.names.head?).getD "") t))
    else
      match c.getTable fromTable with
      | .error e => .error e
      | .ok t => .ok (finish q (.scan fromTable t))

end Plan

end Engine

end WikiDump


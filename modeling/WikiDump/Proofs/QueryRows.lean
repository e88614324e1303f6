import WikiDump.Engine.Execute
import WikiDump.Schema.Tables
/-!
# The rows of a query

A query denotes a list of rows built clause by clause: the rows of its input (the scan of its
table, or the rows of its inner query), those whose record satisfies its WHERE expression, then
its aggregation when it groups or aggregates and otherwise the projection of each row on its
fields, then its first LIMIT rows when it has a limit (`Engine.queryRows`). The list semantics
of the plan the planner builds for a query (`Engine.Plan.run`) is exactly these rows, at every
depth of nested queries (`Engine.Plan.map_run_create`).

A scan may end in a failure after some rows, and the failure stays with the rows derived from
those before it: a filter and a projection yield their rows and then the failure; an aggregation,
which reads its whole input first, yields no rows; a limit whose rows all come before the failure
stops before it and never sees it.
-/

namespace WikiDump

namespace Engine

open Query

/-! ## The list semantics of a query -/

/-- The rows a dump table yields when scanned, and the failure that ended them. -/
def DumpTable.rows (t : DumpTable) : List Row × Option ScanError :=
  Prod.map (List.map (Row.ofDecoded t.schema)) id (Scan.whole t.data t.schema.decoder).collect

def sourceTable (c : Catalog) (fromTable : String) : Except String DumpTable :=
  if fromTable.isEmpty then c.default else c.getTable fromTable

def whereRows (filter : Option Expression) (input : List Row × Option ScanError) :
    List Row × Option ScanError :=
  (input.1.filter fun r => filter.all fun e => e.eval r.record, input.2)

/-- The shape of a query's rows: its aggregation, which reads its whole input and so yields
nothing after a failure, or else the projection of every row on the fields. -/
def shapeRows (q : SelectQuery) (input : List Row × Option ScanError) :
    List Row × Option ScanError :=
  if Plan.aggregates q then
    input.2.elim (aggregateRows q.groupBy q.fields input.1, none) fun e => ([], some e)
  else (input.1.map (projectRow q.fields), input.2)

/-- LIMIT: for a limit `n ≥ 0` over at least `n` rows, the first `n`, and the failure after them
unseen; otherwise the rows with their failure. -/
def limitRows (limit : Int) (input : List Row × Option ScanError) : List Row × Option ScanError :=
  if 0 ≤ limit ∧ limit.toNat ≤ input.1.length then (input.1.take limit.toNat, none) else input

/-- The rows of a query over a catalog, clause by clause, or why its table cannot be read. -/
def queryRows (c : Catalog) : SelectQuery → Except String (List Row × Option ScanError)
  | q@(.mk _ fromTable fromQuery filter _ limit) =>
    let input := match fromQuery with
      | some inner => queryRows c inner
      | none => (sourceTable c fromTable).map DumpTable.rows
    input.map fun rows => limitRows limit (shapeRows q (whereRows filter rows))

/-- Every level of a query selects at least one field, as the query of every text does. -/
inductive Selects : SelectQuery → Prop
  | table {fields : List SelectField} {fromTable : String} {filter : Option Expression}
      {groupBy : String} {limit : Int} :
      fields ≠ [] → Selects (.mk fields fromTable none filter groupBy limit)
  | subquery {fields : List SelectField} {fromTable : String} {inner : SelectQuery}
      {filter : Option Expression} {groupBy : String} {limit : Int} :
      fields ≠ [] → Selects inner → Selects (.mk fields fromTable (some inner) filter groupBy limit)

/-! ## Running the steps of a plan -/

namespace Plan

/-- The list semantics of a plan: the rows it yields, and the scan failure that ended them, if
any. Each step maps the rows of the step inside it, and a limit whose rows all come before the
failure never sees it. -/
def run : Plan → List Row × Option ScanError
  | .scan _ t =>
    let (rows, err) := (Scan.whole t.data t.schema.decoder).collect
    (rows.map (Row.ofDecoded t.schema), err)
  | .filter input e =>
    let (rows, err) := input.run
    (rows.filter fun r => e.eval r.record, err)
  | .project input fields =>
    let (rows, err) := input.run
    (rows.map (projectRow fields), err)
  | .aggregate input groupBy fields =>
    match input.run with
    | (_, some err) => ([], some err)
    | (rows, none) => (aggregateRows groupBy fields rows, none)
  | .limit input n =>
    let (rows, err) := input.run
    if rows.length ≥ n then (rows.take n, none) else (rows, err)

@[simp] theorem run_scan (name : String) (t : DumpTable) : (Plan.scan name t).run = t.rows := rfl

@[simp] theorem run_filter (input : Plan) (e : Expression) :
    (Plan.filter input e).run = whereRows (some e) input.run := rfl

theorem whereRows_none (input : List Row × Option ScanError) : whereRows none input = input := by
  cases input
  simp [whereRows]

theorem run_aggregate (input : Plan) (groupBy : String) (fields : List SelectField) :
    (Plan.aggregate input groupBy fields).run =
      input.run.2.elim (aggregateRows groupBy fields input.run.1, none) fun e => ([], some e) := by
  cases found : input.run with
  | mk rows failure => cases failure <;> simp [Plan.run, found]

theorem run_shape (q : SelectQuery) (selects : q.fields ≠ []) (input : Plan) :
    (if aggregates q then Plan.aggregate input q.groupBy q.fields
      else if q.fields.isEmpty then input else Plan.project input q.fields).run =
      shapeRows q input.run := by
  have nonempty : q.fields.isEmpty = false := List.isEmpty_eq_false_iff.2 selects
  by_cases grouped : aggregates q
  · simp [grouped, shapeRows, run_aggregate]
  · simp [grouped, nonempty, shapeRows, Plan.run]

theorem run_limitStep (limit : Int) (input : Plan) :
    (if limit ≥ 0 then Plan.limit input limit.toNat else input).run = limitRows limit input.run := by
  by_cases limited : limit ≥ 0
  · simp only [limited, if_true, limitRows, true_and]
    rfl
  · simp [limited, limitRows]

theorem run_finish (q : SelectQuery) (selects : q.fields ≠ []) (input : Plan) :
    (finish q input).run = limitRows q.limit (shapeRows q (whereRows q.filter input.run)) := by
  simp only [finish]
  rw [run_limitStep, run_shape q selects]
  -- what is left is the WHERE step, present exactly when the query filters
  cases q.filter with
  | none => rw [whereRows_none]
  | some e => rfl

/-- The plan of a query runs to the query's rows, and fails to be made exactly when they cannot
be read, at every depth of nested queries. -/
theorem map_run_create (c : Catalog) {q : SelectQuery} (selects : Selects q) :
    (create c q).map run = queryRows c q := by
  induction selects with
  | @table fields fromTable filter groupBy limit nonempty =>
      have finishes := run_finish (.mk fields fromTable none filter groupBy limit) nonempty
      simp only [create, queryRows, sourceTable]
      by_cases unnamed : fromTable.isEmpty
      · cases c.default <;> simp [unnamed, Except.map, finishes, SelectQuery.limit, SelectQuery.filter]
      · cases c.getTable fromTable <;> simp [unnamed, Except.map, finishes, SelectQuery.limit, SelectQuery.filter]
  | @subquery fields fromTable inner filter groupBy limit nonempty _ ih =>
      have finishes := run_finish (.mk fields fromTable (some inner) filter groupBy limit) nonempty
      simp only [create, queryRows, ← ih]
      cases create c inner <;> simp [Except.map, finishes, SelectQuery.limit, SelectQuery.filter]

end Plan

end Engine

end WikiDump


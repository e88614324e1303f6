import WikiDump.Engine.Plan
import WikiDump.Engine.Aggregate
/-!
# Plans as pull iterators

A plan runs as a chain of iterators, one per step, each pulling rows from the one below it. An
iterator answers three calls: `next` moves to its next row and says whether there is one, `row`
is the row it stands on after a `next` that said `true`, and `error` is why it stopped, asked
once `next` has said `false`.

* A scan steps the scan of its table's dump and stands on the engine row of the decoded row.
* A filter pulls its source until a row whose record satisfies the expression, or until the
  source has no more rows.
* A projection pulls one row and builds the projected row from it.
* A limit counts the rows it has passed on and pulls its source only while that count is below
  its limit.
* An aggregation does nothing until its first `next`. That call opens the input's iterator,
  drains it, and keeps the aggregated rows, or the input's error; it then moves through the
  kept rows one `next` at a time, from position `-1`.

Every loop over a source is given one pull more than the most rows the source's plan can yield
(`Plan.bound`), so no loop is cut short by its bound.
-/

namespace WikiDump

namespace Engine

/-- The state of the iterator of a plan. The settings of each step (its table, expression,
fields or limit) are the plan's; the cursor holds what changes as rows are pulled. -/
inductive Cursor : Plan → Type where
  | scan {name : String} {table : DumpTable} (scan : Scan WikiDump.Row) (current : Option Row) :
      Cursor (.scan name table)
  | filter {input : Plan} {expr : Query.Expression} (source : Cursor input) :
      Cursor (.filter input expr)
  | project {input : Plan} {fields : List Query.SelectField} (source : Cursor input)
      (current : Option Row) : Cursor (.project input fields)
  | limit {input : Plan} {count : Nat} (source : Cursor input) (seen : Nat) :
      Cursor (.limit input count)
  /-- The aggregated rows and the position among them, or the input's error; `done` says whether
  the input has been run. -/
  | aggregate {input : Plan} {groupBy : String} {fields : List Query.SelectField}
      (results : List Row) (index : Int) (error : Option ScanError) (done : Bool) :
      Cursor (.aggregate input groupBy fields)

namespace Plan

/-- The most rows a plan can yield: a scan at most one per byte of its dump and one more, an
aggregation one more than its input (a global aggregate over no rows still yields its row). -/
def bound : Plan → Nat
  | .scan _ t => t.data.size + 1
  | .filter input _ => input.bound
  | .project input _ => input.bound
  | .aggregate input _ _ => input.bound + 1
  | .limit input _ => input.bound

def cursor : (p : Plan) → Cursor p
  | .scan _ t => .scan (Scan.whole t.data t.schema.decoder) none
  | .filter input _ => .filter input.cursor
  | .project input _ => .project input.cursor none
  | .limit input _ => .limit input.cursor 0
  | .aggregate .. => .aggregate [] 0 none false

end Plan

/-- The rows of a projection step for one input row: each field's value under its alias (or
path), NULL when its path does not resolve; a field `*` without another alias brings every
column of the row. -/
def projectRow (fields : List Query.SelectField) (row : Row) : Row :=
  fields.flatMap fun f =>
    if f.path = "*" ∧ (f.aliasName.isEmpty ∨ f.aliasName = "*") then row
    else
      let name := if f.aliasName.isEmpty then f.path else f.aliasName
      [(name, (row.get f.path).toOption.getD .null)]

/-- Pulls from a source until it yields a row that `keep` accepts, or says it has no more; at
most `fuel` pulls. -/
def pullUntil (step : σ → Bool × σ) (row : σ → Option Row) (keep : Row → Bool) :
    Nat → σ → Bool × σ
  | 0, s => (false, s)
  | fuel + 1, s =>
    match step s with
    | (true, s') => if (row s').any keep then (true, s') else pullUntil step row keep fuel s'
    | (false, s') => (false, s')

/-- Pulls rows from a source until it says it has no more: the rows, and the source after its
last `next`; at most `fuel` pulls. -/
def drainWith (step : σ → Bool × σ) (row : σ → Option Row) : Nat → σ → List Row × σ
  | 0, s => ([], s)
  | fuel + 1, s =>
    match step s with
    | (true, s') =>
      let (rows, last) := drainWith step row fuel s'
      ((row s').toList ++ rows, last)
    | (false, s') => ([], s')

namespace Cursor

/-- The row an iterator stands on; none before its first row or past its last. -/
def row : (p : Plan) → Cursor p → Option Row
  | .scan .., .scan _ current => current
  | .filter input _, .filter source => row input source
  | .project .., .project _ current => current
  | .limit input _, .limit source _ => row input source
  | .aggregate .., .aggregate results index _ _ => if 0 ≤ index then results[index.toNat]? else none

/-- Why an iterator stopped: the error of the scan below it, if that scan failed. -/
def error : (p : Plan) → Cursor p → Option ScanError
  | .scan .., .scan s _ => s.error
  | .filter input _, .filter source => error input source
  | .project input _, .project source _ => error input source
  | .limit input _, .limit source _ => error input source
  | .aggregate .., .aggregate _ _ err _ => err

/-- An aggregation's `next` once its input has run: nothing after the input's error, else the
next kept row. -/
def advance {input : Plan} {groupBy : String} {fields : List Query.SelectField}
    (results : List Row) (index : Int) (err : Option ScanError) :
    Bool × Cursor (.aggregate input groupBy fields) :=
  if err.isSome then (false, .aggregate results index err true)
  else (decide (index + 1 < results.length), .aggregate results (index + 1) err true)

/-- Moves an iterator to its next row, saying whether there is one. -/
def next : (p : Plan) → Cursor p → Bool × Cursor p
  | .scan _ t, .scan s current =>
    match s.next with
    | (true, s') => (true, .scan s' (s'.row.map (Row.ofDecoded t.schema)))
    | (false, s') => (false, .scan s' current)
  | .filter input e, .filter source =>
    let (found, source) :=
      pullUntil (next input) (row input) (fun r => e.eval r.record) (input.bound + 1) source
    (found, .filter source)
  | .project input fields, .project source current =>
    match next input source with
    | (true, source) => (true, .project source ((row input source).map (projectRow fields)))
    | (false, source) => (false, .project source current)
  | .limit input n, .limit source seen =>
    if n ≤ seen then (false, .limit source seen)
    else
      match next input source with
      | (true, source) => (true, .limit source (seen + 1))
      | (false, source) => (false, .limit source seen)
  | .aggregate input groupBy fields, .aggregate results index err done =>
    if done then advance results index err
    else
      -- the first call runs the input to its end
      let (rows, last) := drainWith (next input) (row input) (input.bound + 1) input.cursor
      match error input last with
      | some e => (false, .aggregate results (-1) (some e) true)
      | none => advance (aggregateRows groupBy fields rows) (-1) none

end Cursor

namespace Plan

/-- Runs a plan as the executor does: opens its iterator, takes the row after each `next` that
says `true`, and once one says `false` asks for the error. -/
def stream (p : Plan) : List Row × Option ScanError :=
  let (rows, last) := drainWith (Cursor.next p) (Cursor.row p) (p.bound + 1) p.cursor
  (rows, Cursor.error p last)

end Plan

end Engine

end WikiDump


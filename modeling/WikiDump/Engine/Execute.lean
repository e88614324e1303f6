import WikiDump.Engine.Iterator
import WikiDump.Export.RowWriter
/-!
# Running plans

A plan is run by pulling the rows of its iterator (`Plan.stream`) and writing them with a row
writer. Writing stops at the first row that cannot be encoded; otherwise the iterator's error is
reported after the rows before it, and without one the writer is closed.

A query is prepared by parsing it and planning it; planning failures are marked as such.
-/

namespace WikiDump

namespace Engine

/-- Why running a plan stopped early. -/
inductive RunError where
  /-- A dump row failed to decode. -/
  | scan (e : ScanError)
  /-- A row could not be written. -/
  | write (message : String)
  deriving Inhabited

def RunError.message : RunError → String
  | .scan e => e.message
  | .write m => m

/-- What running a plan wrote: the text, the number of rows written, and the failure that
stopped it, if any. -/
structure Execution where
  output : String
  written : Nat
  error : Option RunError
  deriving Inhabited

/-- Runs a plan and writes its rows in a format, indented when `pretty`. Pulling is free of
effects, so pulling the rows after one that cannot be written changes nothing. -/
def execute (p : Plan) (format : Format) (pretty : Bool) : Execution :=
  let (rows, err) := p.stream
  let (w, failure) := RowWriter.writeAll { format, pretty } (rows.map Row.json)
  match failure, err with
  | some m, _ => ⟨w.out, w.written, some (.write m)⟩
  | none, some e => ⟨w.out, w.written, some (.scan e)⟩
  | none, none =>
    let w := w.close
    ⟨w.out, w.written, none⟩

/-- Why a query could not be prepared. -/
inductive PrepareError where
  | query (e : Query.QueryError)
  | planning (message : String)
  deriving Inhabited

def PrepareError.message : PrepareError → String
  | .query e => e.message
  | .planning m => "planning error: " ++ m

def prepare (text : String) (c : Catalog) : Except PrepareError Plan :=
  match Query.SelectQuery.parse text with
  | .error e => .error (.query e)
  | .ok q =>
    match Plan.create c q with
    | .error m => .error (.planning m)
    | .ok p => .ok p

end Engine

end WikiDump


import WikiDump.Engine.Execute
import WikiDump.Query.TextExpression
/-!
# Interactive sessions

At the prompt a line is one of:

* `\tables`, which lists the names of the catalog, one per line;
* `\explain` followed by a query, which shows the plan of the query instead of running it;
* a query starting with `SELECT` (in any case);
* a filter expression, which is run over the only table of the catalog.

Rows are written as JSON lines. A failure is reported after whatever was written before it.
-/

namespace WikiDump

namespace Engine

/-- Why a line of a session failed. -/
inductive SessionError where
  | prepare (e : PrepareError)
  /-- The line is neither a SELECT nor a filter expression. -/
  | expression (e : Query.ExpressionError)
  | catalog (message : String)
  | run (e : RunError)
  deriving Inhabited

def SessionError.message : SessionError → String
  | .prepare e => e.message
  | .expression e => "not a SELECT or filter expression: " ++ e.message
  | .catalog m => m
  | .run e => e.message

/-- What a line of a session wrote, and its failure, if any. -/
structure Reply where
  output : String
  error : Option SessionError
  deriving Inhabited

def linePlan (c : Catalog) (line : String) : Except SessionError Plan :=
  if (CaseMap.upperText line).startsWith "SELECT" then
    match prepare line c with
    | .error e => .error (.prepare e)
    | .ok p => .ok p
  else
    match Query.Expression.ofText line with
    | .error e => .error (.expression e)
    | .ok e =>
      match c.default with
      | .error m => .error (.catalog m)
      | .ok t => .ok (.filter (.scan ((c.names.head?).getD "") t) e)

def interact (c : Catalog) (line : String) (pretty : Bool) : Reply :=
  if line = "\\tables" then ⟨String.join (c.names.map (· ++ "\n")), none⟩
  else
    let (explain, rest) :=
      if line.startsWith "\\explain" then (true, Space.trim (line.drop 8).toString) else (false, line)
    match linePlan c rest with
    | .error e => ⟨"", some e⟩
    | .ok p =>
      if explain then ⟨"Execution Plan:\n" ++ p.format, none⟩
      else
        let run := execute p .lines pretty
        ⟨run.output, run.error.map .run⟩

end Engine

end WikiDump


import WikiDump.Query.TextExpression
import WikiDump.Schema.Tables
import WikiDump.Json.Reader
/-!
# Command-line arguments as domain values

Three kinds of argument need reading before a command can use them.

* A table given to a query as `[name=]file`: without a name the table is guessed from the file
  name. The schema is that of the name when it names a table, and otherwise the one guessed from
  the file name, which must exist. An empty name or file is refused.
* A value to filter on: a JSON number, boolean or `null` when the whole argument is one, and
  otherwise the text of the argument itself (so `"a"`, `[1]` and `1e400` stay text).
* A filter: either a written expression, or one condition made of a field, an operator and a
  value; one of them must be given.
-/

namespace WikiDump

namespace Command

/-- A table to load for a query: its catalog name, its file, and the schema to decode it. -/
structure TableSpec where
  name : String
  path : String
  schema : Table
  deriving Inhabited

def TableSpec.parse (arg : String) : Except String TableSpec :=
  let (name, path) :=
    match arg.splitOn "=" with
    | [whole] => (Tables.ofPath whole, whole)
    | name :: rest => (name, "=".intercalate rest)
    | [] => (Tables.ofPath arg, arg)
  if path.isEmpty ∨ name.isEmpty then
    .error ("invalid --table " ++ Quoted.ofString arg ++ ", want [name=]file")
  else
    match Tables.lookup? name with
    | some t => .ok ⟨name, path, t⟩
    | none =>
      match Tables.lookup (Tables.ofPath path) with
      | .ok t => .ok ⟨name, path, t⟩
      | .error m => .error ("--table " ++ arg ++ ": " ++ m)

/-- A value given on a command line: a JSON number, boolean or null when the whole argument is
one, otherwise the text itself. -/
def argumentValue (s : String) : Variant :=
  match Json.readString s with
  | .ok (.number t) =>
    match Numeral.readFloat t with
    | .ok x => .float x
    | .error _ => .str s
  | .ok (.bool b) => .bool b
  | .ok .null => .null
  | _ => .str s

/-- Why no filter could be built from the arguments. -/
inductive FilterArgumentError where
  /-- Neither an expression nor a field was given. -/
  | missing
  | expression (e : Query.ExpressionError)
  deriving Inhabited

def FilterArgumentError.message : FilterArgumentError → String
  | .missing => "either --where or --field is required"
  | .expression e => e.message

/-- The filter of a command line: the written expression when there is one, else the condition
on `field`. -/
def filterOfArguments (written field operator value : String) :
    Except FilterArgumentError Query.Expression :=
  if !written.isEmpty then
    match Query.Expression.ofText written with
    | .ok e => .ok e
    | .error e => .error (.expression e)
  else if field.isEmpty then .error .missing
  else .ok (.condition (Query.Filter.make field operator (argumentValue value)))

end Command

end WikiDump


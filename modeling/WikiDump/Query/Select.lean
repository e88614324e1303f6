import WikiDump.Query.Syntax
/-!
# Queries

A query as the planner sees it: the selected fields, each a path with an alias and an optional
aggregate, the table or query it reads from, a filter expression, a GROUP BY path and a limit.

A field takes its path and aggregate from its expression. Without an alias, an aggregated
field is called by the aggregate and the path joined by `_` (with the dots of the path made
`_`), a plain field by its path.
-/

namespace WikiDump

namespace Query

/-- A selected field. The aggregate is empty for a plain field. -/
structure SelectField where
  path : String
  aliasName : String
  aggregate : String
  deriving Inhabited

/-- The text of a field: `AGG(path)` or the path, then ` AS alias` when the alias differs from
the path. -/
def SelectField.render (f : SelectField) : String :=
  let s := if f.aggregate.isEmpty then f.path else f.aggregate ++ "(" ++ f.path ++ ")"
  if !f.aliasName.isEmpty && f.aliasName != f.path then s ++ " AS " ++ f.aliasName else s

def aggregateKey (aggregate path : String) : String :=
  aggregate ++ "_" ++ path.replace "." "_"

/-- A query. The limit is negative when the query has none. -/
inductive SelectQuery where
  | mk (fields : List SelectField) (fromTable : String) (fromQuery : Option SelectQuery)
      (filter : Option Expression) (groupBy : String) (limit : Int)
  deriving Inhabited

namespace SelectQuery

def fields : SelectQuery → List SelectField
  | .mk fields _ _ _ _ _ => fields

def fromTable : SelectQuery → String
  | .mk _ t _ _ _ _ => t

def fromQuery : SelectQuery → Option SelectQuery
  | .mk _ _ q _ _ _ => q

/-- The filter, if the query has a WHERE clause. -/
def filter : SelectQuery → Option Expression
  | .mk _ _ _ f _ _ => f

def groupBy : SelectQuery → String
  | .mk _ _ _ _ g _ => g

def limit : SelectQuery → Int
  | .mk _ _ _ _ _ l => l

end SelectQuery

def SelectItem.toField (item : SelectItem) : SelectField :=
  let (path, aggregate) := item.info
  let aliasName :=
    if !item.aliasName.isEmpty then item.aliasName
    else if !aggregate.isEmpty then aggregateKey aggregate path
    else path
  ⟨path, aliasName, aggregate⟩

mutual

def SelectSyntax.toQuery : SelectSyntax → SelectQuery
  | .mk items source filter groupBy limit =>
    let (table, inner) := Source.toParts source
    .mk (items.map SelectItem.toField) table inner (filter.map Disjunction.toExpression)
      ((groupBy.map (".".intercalate ·)).getD "") (limit.getD (-1))

def Source.toParts : Option Source → String × Option SelectQuery
  | none => ("", none)
  | some (.table name) => (name, none)
  | some (.subquery q) => ("", some q.toQuery)

end

/-- Why a query was refused. -/
inductive QueryError where
  | empty
  | invalid (e : ParseError)
  deriving Inhabited

def QueryError.message : QueryError → String
  | .empty => "empty query"
  | .invalid e => "parse error: " ++ e.message

def QueryError.isNumeral : QueryError → Bool
  | .invalid (.conform ..) => true
  | _ => false

def SelectQuery.parse (text : String) : Except QueryError SelectQuery :=
  let query := Space.trim text
  if query.isEmpty then .error .empty
  else
    match SelectSyntax.parse query with
    | .error e => .error (.invalid e)
    | .ok s => .ok s.toQuery

end Query

end WikiDump


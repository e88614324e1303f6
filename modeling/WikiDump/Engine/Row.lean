import WikiDump.Query.Filter
import WikiDump.Export.Encode
import WikiDump.Schema.Table
/-!
# Rows of the query engine

The engine passes rows on as named values in column order; a name may occur more than once.
Seen as a record, a row keeps each name once, with the last of its values.

A field of a row is looked up by its exact name first (the first column of that name), and
otherwise read as a path over the row's record.

A decoded dump row becomes an engine row under the column names of its table, with instants as
RFC 3339 text and byte strings as texts of the same bytes, whether or not they are UTF-8.
-/

namespace WikiDump

namespace Engine

abbrev Row := List (String × Variant)

/-- Sets `k` to `v` in entries: the first entry of that name takes the value, or the entry is
added at the end. -/
def setEntry (k : String) (v : Variant) : List (String × Variant) → List (String × Variant)
  | [] => [(k, v)]
  | (k', v') :: rest => if k' = k then (k, v) :: rest else (k', v') :: setEntry k v rest

def lastWins (es : List (String × Variant)) : List (String × Variant) :=
  es.foldl (fun acc (k, v) => setEntry k v acc) []

namespace Row

/-- The row as a record. -/
def record (r : Row) : Variant := .record (lastWins r)

/-- The value of a field: the first column of that name, else the value at that path of the
row's record. -/
def get (r : Row) (field : String) : Except String Variant :=
  match r.find? (·.1 == field) with
  | some (_, v) => .ok v
  | none => Query.extract field r.record

def members : Row → Except Float (List (String × Json))
  | [] => .ok []
  | (k, v) :: rest =>
    match v.toJson with
    | .error x => .error x
    | .ok j => (members rest).map ((k, j) :: ·)

/-- The JSON object of a row, with its columns in order, or the message of why it has none. -/
def json (r : Row) : Except String Json :=
  match members r with
  | .ok ms => .ok (.object ms)
  | .error x =>
    .error ("json: error calling MarshalJSON for type *database.OrderedMap: " ++ unsupportedValue x)

def engineValue : Variant → Variant
  | .bytes b =>
    match Utf8.decode? b with
    | some s => .str s
    | none => .raw b.toList
  | v => v

def ofDecoded (t : Table) (row : WikiDump.Row) : Row :=
  t.columnNames.zip ((Table.values row).map engineValue)

end Row

end Engine

end WikiDump


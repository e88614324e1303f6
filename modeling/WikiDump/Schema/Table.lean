import WikiDump.Field.Converter
import WikiDump.Dump.Scan
/-!
# Table schemas

A table schema names a dump table and lists its columns in the order of the dump's tuples. Each
column has a name, the key its value takes in a row's JSON object, a converter, and whether it
may be NULL.

Decoding a row converts the values of a tuple column by column and stops at the first column
that fails; the error names the table, the column's position and name, the literal as shown in
messages, and where the literal starts. A decoded row holds one field value per column
(`decodeRow_length`).
-/

namespace WikiDump

/-- A column of a table. -/
structure Column where
  name : String
  /-- The key of the column's value in a row's JSON object. -/
  key : String
  converter : Converter
  nullable : Bool := false
  deriving Inhabited

/-- A table schema: its name and its columns in tuple order. -/
structure Table where
  name : String
  columns : List Column
  deriving Inhabited

abbrev Row := List Datum

namespace Table

def width (t : Table) : Nat := t.columns.length

def columnNames (t : Table) : List String := t.columns.map (·.name)

def decodeFrom (table : String) : Nat → List Column → List Value → Except ScanError Row
  | _, [], _ => .ok []
  | index, c :: cs, v :: vs =>
    match c.converter.convert c.nullable v.content with
    | .error e => .error (.rowDecode table index c.name v.raw v.offset e)
    | .ok d =>
      match decodeFrom table (index + 1) cs vs with
      | .error e => .error e
      | .ok rest => .ok (d :: rest)
  -- The scan checks the width of each tuple before it is decoded.
  | _, _ :: _, [] => .ok []

def decodeRow (t : Table) (values : Array Value) : Except ScanError Row :=
  decodeFrom t.name 0 t.columns values.toList

def decoder (t : Table) : Decoder Row := ⟨t.name, t.width, t.decodeRow⟩

def rowJson (t : Table) (row : Row) : Json :=
  .object ((t.columns.zip row).map (fun (c, d) => (c.key, d.json)))

/-- The values a row exposes, in column order. -/
def values (row : Row) : List Variant := row.map Datum.exposed

theorem decodeFrom_length (table : String) (index : Nat) (cs : List Column) (vs : List Value)
    (row : Row) (enough : cs.length ≤ vs.length) (decoded : decodeFrom table index cs vs = .ok row) :
    row.length = cs.length := by
  induction cs generalizing index vs row with
  | nil => simp [decodeFrom] at decoded; simp [← decoded]
  | cons c cs ih =>
    cases vs with
    | nil => simp at enough
    | cons v vs =>
      simp only [decodeFrom] at decoded
      split at decoded
      · cases decoded
      · split at decoded
        · cases decoded
        · rename_i rest restDecoded
          injection decoded with decoded
          subst decoded
          simp only [List.length_cons, List.length_cons] at enough ⊢
          rw [ih (index + 1) vs rest (by omega) restDecoded]

/-- A row decoded from a tuple of the table's width has one field value per column. -/
theorem decodeRow_length (t : Table) (values : Array Value) (row : Row)
    (fits : values.size = t.width) (decoded : t.decodeRow values = .ok row) :
    row.length = t.width := by
  unfold decodeRow at decoded
  unfold width at fits ⊢
  exact decodeFrom_length t.name 0 t.columns values.toList row (by simp [fits]) decoded

end Table

end WikiDump


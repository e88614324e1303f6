import WikiDump.Dump.Scan
import WikiDump.Schema.Table
import WikiDump.Number.Shortest
import WikiDump.Number.Reading
/-!
# SQLite tables

A dump table can be loaded into a table of the same name in a SQLite database. The columns are
declared without types, so every value keeps the storage class it was inserted with: NULL,
integers (booleans as `0` and `1`), reals, texts and blobs. A table that already exists is
kept, and new rows go after its rows.

Rows are committed in batches of a given size (5000 when the size is not positive): a
transaction is begun for the first row of a batch and committed once it holds the batch's rows,
and the last, shorter batch is committed when the rows end. A row that fails to decode stops the
load: the transaction in progress is rolled back, the rows of earlier batches stay, and only
committed rows are counted.

Values read back as SQL literals: `NULL`; integers in decimal; texts in single quotes with each
quote doubled; blobs as `X'…'` in uppercase hexadecimal; reals with fifteen significant digits
(in exponent notation below `1e-4` and from `1e15` on) when those read back as the same double,
and with twenty-one otherwise. Trailing zeros of a real are dropped, but one digit always
follows the point, and the exponent has a sign and at least two digits.

The digits of a real are those the database library computes: it scales the double by powers
of ten in double-double arithmetic until it lies between about `9.2e17` and `9.2e18`, takes
the integer part as eighteen or nineteen digits, and rounds those. Beyond the seventeenth
digit they are close to, but not always equal to, the exact decimal expansion.
-/

namespace WikiDump

namespace Sqlite

/-- A value stored in a SQLite table. -/
inductive SqlValue where
  | null
  | integer (n : Int)
  | real (x : Float)
  | text (s : String)
  | blob (b : ByteArray)
  deriving Inhabited

def SqlValue.ofVariant : Variant → SqlValue
  | .null => .null
  | .int n => .integer n.toInt
  | .count n => .integer n
  | .float x => .real x
  | .str s => .text s
  | .bool b => .integer (if b then 1 else 0)
  | .bytes b => .blob b
  | v => .text v.displayText

def SqlValue.typeName : SqlValue → String
  | .null => "null"
  | .integer _ => "integer"
  | .real _ => "real"
  | .text _ => "text"
  | .blob _ => "blob"

/-- A number held as the unevaluated sum of two doubles, the second far smaller than the
first, so that a product keeps about thirty significant digits. -/
structure DoubleDouble where
  hi : Float
  lo : Float

/-- The double with the low 26 bits of its significand cleared. Its significand has 26 bits,
so the product of two such halves is exact. -/
def upperHalf (x : Float) : Float := Float.ofBits (x.toBits &&& 0xfffffffffc000000)

/-- Multiplies by the double-double `y + yy`, splitting both high parts into halves so that
the error of the main product is recovered exactly. -/
def DoubleDouble.mul (x : DoubleDouble) (y yy : Float) : DoubleDouble :=
  let hx := upperHalf x.hi
  let tx := x.hi - hx
  let hy := upperHalf y
  let ty := y - hy
  let p := hx * hy
  let q := hx * ty + tx * hy
  let c := p + q
  let cc := p - c + q + tx * ty
  let cc := x.hi * yy + x.lo * y + cc
  let hi := c + cc
  ⟨hi, c - hi + cc⟩

/-- Multiplies by a power of ten while the high part satisfies `more`, counting the change
of the decimal exponent in steps of `step`. -/
def scaleWhile (more : Float → Bool) (y yy : Float) (step : Int) :
    Nat → DoubleDouble × Int → DoubleDouble × Int
  | 0, s => s
  | fuel + 1, (x, e) => if more x.hi then scaleWhile more y yy step fuel (x.mul y yy, e + step) else (x, e)

/-- A positive double scaled by a power of ten into the range from about `9.2e17` to `9.2e18`,
and the exponent of ten that undoes the scaling. -/
def scaleToRange (r : Float) : DoubleDouble × Int :=
  let start : DoubleDouble × Int := (⟨r, 0⟩, 0)
  if r > 9.223372036854774784e18 then
    let s := scaleWhile (· > 9.223372036854774784e118) 1.0e-100 (-1.99918998026028836196e-117) 100 8 start
    let s := scaleWhile (· > 9.223372036854774784e28) 1.0e-10 (-3.6432197315497741579e-27) 10 16 s
    scaleWhile (· > 9.223372036854774784e18) 1.0e-1 (-5.5511151231257827021e-18) 1 16 s
  else
    let s := scaleWhile (· < 9.223372036854774784e-83) 1.0e100 (-1.5902891109759918046e83) (-100) 8 start
    let s := scaleWhile (· < 9.223372036854774784e7) 1.0e10 0 (-10) 40 s
    scaleWhile (· < 9.22337203685477478e17) 10 0 (-1) 16 s

/-- Adds one to the last of a list of decimal digits, carrying: the digits and whether the
carry ran past the first digit. -/
def incrementDigits (ds : List Nat) : List Nat × Bool :=
  ds.foldr (fun d (acc : List Nat × Bool) =>
    if acc.2 then (if d = 9 then (0 :: acc.1, true) else ((d + 1) :: acc.1, false))
    else (d :: acc.1, false)) ([], true)

/-- The leading decimal digits of a positive finite double as the database library finds
them: the scaled double-double truncated to an integer of eighteen or nineteen digits, then
rounded half up to `places` digits, without trailing zeros; and the position of the decimal
point after the first `point` digits. -/
def libraryDigits (r : Float) (places : Nat) : List Nat × Int :=
  let (x, e) := scaleToRange r
  let v := if x.lo < 0 then x.hi.toUInt64.toNat - (-x.lo).toUInt64.toNat
    else x.hi.toUInt64.toNat + x.lo.toUInt64.toNat
  let ds := Nat.toDigits 10 v |>.map fun c => c.toNat - 48
  let point : Int := ds.length + e
  let (ds, point) :=
    if places < ds.length then
      let kept := ds.take places
      if ds.getD places 0 ≥ 5 then
        match incrementDigits kept with
        | (up, true) => (1 :: up, point + 1)
        | (up, false) => (up, point)
      else (kept, point)
    else (ds, point)
  ((ds.reverse.dropWhile (· = 0)).reverse, point)

def digitText (ds : List Nat) : String := String.ofList (ds.map fun d => Char.ofNat (48 + d))

def trimFraction (whole : String) (fraction : List Nat) : String :=
  let kept := (fraction.reverse.dropWhile (· = 0)).reverse
  whole ++ "." ++ (if kept.isEmpty then "0" else digitText kept)

/-- Exponent notation with `places` digits after the point before trailing zeros are dropped,
and an exponent with a sign and at least two digits. -/
def exponentText (ds : List Nat) (point : Int) (places : Nat) : String :=
  let exp := point - 1
  let magnitude := exp.natAbs
  trimFraction (digitText [ds.getD 0 0]) ((List.range places).map fun i => ds.getD (i + 1) 0) ++
    "e" ++ (if exp < 0 then "-" else "+") ++ (if magnitude < 10 then "0" else "") ++ toString magnitude

/-- Positional notation with `places` digits after the point before trailing zeros are
dropped. -/
def pointText (ds : List Nat) (point : Int) (places : Nat) : String :=
  let whole := if point ≤ 0 then "0" else digitText ((List.range point.toNat).map fun i => ds.getD i 0)
  let fraction := (List.range places).map fun (i : Nat) =>
    let k : Int := point + (i : Int)
    if k < 0 then 0 else ds.getD k.toNat 0
  trimFraction whole fraction

/-- A double with fifteen significant digits: positional when its decimal exponent is from
`-4` to `14`, in exponent notation otherwise. -/
def fifteenDigits (x : Float) : String :=
  let sign := if x < 0 then "-" else ""
  if x == 0 then "0.0"
  else
    let (ds, point) := libraryDigits x.abs 15
    let exp := point - 1
    sign ++ (if exp < -4 ∨ exp > 14 then exponentText ds point 14 else pointText ds point (14 - exp).toNat)

def twentyOneDigits (x : Float) : String :=
  let sign := if x < 0 then "-" else ""
  if x == 0 then "0.0e+00"
  else
    let (ds, point) := libraryDigits x.abs 21
    sign ++ exponentText ds point 20

def significandLimit : Nat := (18446744073709551615 - 9) / 10

/-- The digits before the point of a number being read: the significand and the count of
digits dropped once the significand is full, which raise the exponent. -/
def wholeDigits : List Char → Nat → Int → Nat × Int × List Char
  | c :: rest, s, d =>
    if c.isDigit then
      let s := s * 10 + (c.toNat - 48)
      if s ≥ significandLimit then
        let dropped := rest.takeWhile Char.isDigit
        (s, d + dropped.length, rest.drop dropped.length)
      else wholeDigits rest s d
    else (s, d, c :: rest)
  | [], s, d => (s, d, [])

/-- The digits after the point: each lowers the exponent by one while the significand has
room for it, and is dropped otherwise. -/
def fractionDigits : List Char → Nat → Int → Nat × Int × List Char
  | c :: rest, s, d =>
    if c.isDigit then
      if s < significandLimit then fractionDigits rest (s * 10 + (c.toNat - 48)) (d - 1)
      else fractionDigits rest s d
    else (s, d, c :: rest)
  | [], s, d => (s, d, [])

def exponentDigits : List Char → Nat → Nat
  | c :: rest, e => if c.isDigit then exponentDigits rest (if e < 10000 then e * 10 + (c.toNat - 48) else 10000) else e
  | [], e => e

def DoubleDouble.mulTimes (x : DoubleDouble) (y yy : Float) : Nat → DoubleDouble
  | 0 => x
  | n + 1 => (x.mul y yy).mulTimes y yy n

/-- Moves powers of ten from the exponent into the significand while the significand has room,
and trailing zeros of the significand into a negative exponent. -/
def balance (s : Nat) (e : Int) : Nat → Nat × Int
  | 0 => (s, e)
  | fuel + 1 =>
    if e > 0 ∧ s < (18446744073709551615 - 0x7ff) / 10 then balance (s * 10) (e - 1) fuel
    else if e < 0 ∧ s % 10 = 0 then balance (s / 10) (e + 1) fuel
    else (s, e)

/-- Reads a decimal number as the database library does: the significand keeps at most about
nineteen digits, and the power of ten is applied in double-double arithmetic, by hundreds,
tens and ones. The result can differ from the nearest double in its last bit. -/
def libraryRead (text : String) : Float :=
  let cs := text.toList
  let (negative, cs) := match cs with
    | '-' :: rest => (true, rest)
    | '+' :: rest => (false, rest)
    | rest => (false, rest)
  let (s, d, cs) := wholeDigits cs 0 0
  let (s, d, cs) := match cs with
    | '.' :: rest => fractionDigits rest s d
    | rest => (s, d, rest)
  let e : Int := match cs with
    | c :: rest =>
      if c = 'e' ∨ c = 'E' then
        match rest with
        | '-' :: digits => -(exponentDigits digits 0 : Int)
        | '+' :: digits => exponentDigits digits 0
        | digits => exponentDigits digits 0
      else 0
    | [] => 0
  if s = 0 then (if negative then -0.0 else 0.0)
  else
    let (s, e) := balance s (e + d) (e + d).natAbs
    let hi := s.toUInt64.toFloat
    let lo := if hi ≤ 18446744073709549568.0 then
        let back := hi.toUInt64.toNat
        if s ≥ back then (s - back).toUInt64.toFloat else -((back - s).toUInt64.toFloat)
      else 0
    let start : DoubleDouble := ⟨hi, lo⟩
    let x :=
      if e > 0 then
        let k := e.toNat
        ((start.mulTimes 1.0e100 (-1.5902891109759918046e83) (k / 100)).mulTimes 1.0e10 0 (k % 100 / 10)).mulTimes
          10 0 (k % 10)
      else
        let k := e.natAbs
        ((start.mulTimes 1.0e-100 (-1.99918998026028836196e-117) (k / 100)).mulTimes 1.0e-10
          (-3.6432197315497741579e-27) (k % 100 / 10)).mulTimes 1.0e-1 (-5.5511151231257827021e-18) (k % 10)
    let r := x.hi + x.lo
    let r := if r.isNaN then 1.0e300 * 1.0e300 else r
    if negative then -r else r

/-- The SQL literal of a real: fifteen significant digits when the database library reads
them back as the same double, twenty-one otherwise; an infinity as a number too large to
read. -/
def realLiteral (x : Float) : String :=
  if x.isNaN then "NULL"
  else if x.isInf then (if x < 0 then "-9.0e+999" else "9.0e+999")
  else
    let short := fifteenDigits x
    if libraryRead short == x then short else twentyOneDigits x

def SqlValue.literal : SqlValue → String
  | .null => "NULL"
  | .integer n => toString n
  | .real x => realLiteral x
  | .text s => "'" ++ String.join (s.toList.map fun c => if c = '\'' then "''" else c.toString) ++ "'"
  | .blob b =>
    "X'" ++ String.join (b.toList.map fun byte =>
      let hex := fun (n : Nat) => Char.ofNat (if n < 10 then 48 + n else 55 + n)
      String.ofList [hex (byte.toNat / 16), hex (byte.toNat % 16)]) ++ "'"

/-- A table: its name, its columns, and its rows in insertion order. -/
structure SqlTable where
  name : String
  columns : List String
  rows : List (List SqlValue)
  deriving Inhabited

/-- A database: its tables. -/
structure Database where
  tables : List SqlTable
  deriving Inhabited

def quoteIdent (s : String) : String :=
  "\"" ++ String.join (s.toList.map fun c => if c = '"' then "\"\"" else c.toString) ++ "\""

def createTableSql (t : Table) : String :=
  "CREATE TABLE IF NOT EXISTS " ++ quoteIdent t.name ++ " (" ++
    ", ".intercalate (t.columnNames.map quoteIdent) ++ ")"

namespace Database

def empty : Database := ⟨[]⟩

def table? (db : Database) (name : String) : Option SqlTable := db.tables.find? (·.name == name)

def create (db : Database) (t : Table) : Database :=
  if (db.table? t.name).isSome then db
  else ⟨db.tables ++ [⟨t.name, t.columnNames, []⟩]⟩

def append (db : Database) (name : String) (rows : List (List SqlValue)) : Database :=
  ⟨db.tables.map fun tb => if tb.name == name then { tb with rows := tb.rows ++ rows } else tb⟩

end Database

/-- The batch size used for a requested one. -/
def batchSize (batch : Int) : Nat := if batch ≤ 0 then 5000 else batch.toNat

/-- What a load did: the database after it, the rows committed, and the failure that stopped
it, if any. -/
structure Load where
  database : Database
  inserted : Nat
  error : Option ScanError
  deriving Inhabited

/-- A load between two rows: the database as committed so far, the rows of the open transaction
(none is open when there are none), and the number of rows committed. -/
structure Batching where
  database : Database
  pending : List (List SqlValue)
  inserted : Nat
  deriving Inhabited

namespace Batching

/-- Commits the open transaction to table `name`: its rows join the table and are counted. With
no transaction open nothing changes. -/
def commit (name : String) (s : Batching) : Batching :=
  ⟨s.database.append name s.pending, [], s.inserted + s.pending.length⟩

def rollback (s : Batching) : Batching := { s with pending := [] }

/-- Inserts the values of a row in the open transaction, beginning one when none is open, and
commits the transaction once it holds `size` rows. -/
def insert (size : Nat) (name : String) (s : Batching) (row : List Variant) : Batching :=
  let s := { s with pending := s.pending ++ [row.map SqlValue.ofVariant] }
  if s.pending.length ≥ size then s.commit name else s

end Batching

/-- Loads the rows an iterator yields (`rows`, then its end: normal, or a failure) into the table
of a dump table, created when missing. The open transaction is committed when the rows end
normally and rolled back when they end in a failure. -/
def loadRows (db : Database) (t : Table) (rows : List (List Variant)) (ending : Option ScanError)
    (batch : Int) : Load :=
  let loaded := rows.foldl (Batching.insert (batchSize batch) t.name) ⟨db.create t, [], 0⟩
  match ending with
  | some e =>
    let s := loaded.rollback
    ⟨s.database, s.inserted, some e⟩
  | none =>
    let s := loaded.commit t.name
    ⟨s.database, s.inserted, none⟩

def load (db : Database) (t : Table) (data : ByteArray) (batch : Int) : Load :=
  let (rows, err) := (Scan.whole data t.decoder).collect
  loadRows db t (rows.map Table.values) err batch

end Sqlite

end WikiDump


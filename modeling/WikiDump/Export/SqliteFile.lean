import WikiDump.Export.Sqlite
import WikiDump.Text.Utf8
/-!
# SQLite database files

A database file is a sequence of pages of 4096 bytes. The first page starts with the
100-byte file header, and holds the root of the schema table, whose rows name each table, the
page of its root and the statement that created it. Every table is a b-tree: leaf pages hold
the rows as cells (the length of the row's record, its row number, and the record), and
interior pages hold the page numbers of their children with the greatest row number below each.
A record that does not fit in its page keeps its start there and continues in a chain of
overflow pages.

A record is a header (its own length, then one serial type per value) followed by the values:
NULL, the integers 0 and 1 take no bytes, other integers take the fewest of 1, 2, 3, 4, 6 or 8
bytes in two's complement, reals take 8 bytes, and texts and blobs their bytes. All numbers in
a file are big-endian; lengths and types in records are variable-length integers of seven bits
per byte, the ninth byte holding eight.

Files are written here with rows numbered from 1 in table order, and read back by walking each
table's b-tree in order of row numbers.
-/

namespace WikiDump.Sqlite

def pageSize : Nat := 4096

def bigEndian (value n : Nat) : List UInt8 :=
  (List.range n).reverse.map fun k => (value / Nat.pow 256 k % 256).toUInt8

def readBigEndian (data : ByteArray) (i n : Nat) : Nat :=
  (List.range n).foldl (fun acc k => acc * 256 + (data[i + k]?.getD 0).toNat) 0

def varint (v : Nat) : List UInt8 :=
  if v ≥ Nat.pow 2 56 then
    ((List.range 8).reverse.map fun k => (v / Nat.pow 2 (8 + 7 * k) % 128 + 128).toUInt8) ++ [(v % 256).toUInt8]
  else
    let groups := (List.range 8).filter fun k => k = 0 ∨ v ≥ Nat.pow 2 (7 * k)
    let n := groups.length
    (List.range n).reverse.map fun k => (v / Nat.pow 2 (7 * k) % 128 + (if k = 0 then 0 else 128)).toUInt8

def readVarint (data : ByteArray) (i : Nat) : Nat × Nat :=
  let rec go (j acc : Nat) : Nat → Nat × Nat
    | 0 => (acc * 256 + (data[j]?.getD 0).toNat, j + 1)
    | fuel + 1 =>
      let b := (data[j]?.getD 0).toNat
      if b < 128 then (acc * 128 + b, j + 1) else go (j + 1) (acc * 128 + (b - 128)) fuel
  go i 0 8

def serial : SqlValue → Nat × List UInt8
  | .null => (0, [])
  | .integer n =>
    if n = 0 then (8, [])
    else if n = 1 then (9, [])
    else
      let fits := fun (bytes : Nat) => -(Nat.pow 2 (8 * bytes - 1) : Int) ≤ n ∧ n < Nat.pow 2 (8 * bytes - 1)
      let (kind, bytes) := ([(1, 1), (2, 2), (3, 3), (4, 4), (5, 6)].find? (fun (_, b) => fits b)).getD (6, 8)
      (kind, bigEndian (n % (Nat.pow 2 (8 * bytes) : Int)).toNat bytes)
  | .real x => (7, bigEndian x.toBits.toNat 8)
  | .text s => (2 * s.utf8ByteSize + 13, s.toUTF8.toList)
  | .blob b => (2 * b.size + 12, b.toList)

/-- The record of a row. -/
def record (values : List SqlValue) : List UInt8 :=
  let parts := values.map serial
  let types := parts.flatMap fun p => varint p.1
  let headerSize := ((List.range 9).map (· + 1)).find? (fun k => (varint (types.length + k)).length = k)
  varint (types.length + headerSize.getD 1) ++ types ++ parts.flatMap (·.2)

def localSize (size : Nat) : Nat :=
  let usable := pageSize
  let most := usable - 35
  let least := (usable - 12) * 32 / 255 - 23
  if size ≤ most then size
  else
    let k := least + (size - least) % (usable - 4)
    if k ≤ most then k else least

/-- Pages being laid out: the next free page number and the pages written so far. -/
structure Layout where
  next : Nat
  pages : List (Nat × ByteArray)
  deriving Inhabited

def Layout.take (l : Layout) : Nat × Layout := (l.next, { l with next := l.next + 1 })

/-- Writes the overflow chain of the bytes of a record that do not fit in its cell: the number
of the first page of the chain. -/
def overflowChain (rest : List UInt8) (l : Layout) : Nat × Layout :=
  let chunks := (List.range ((rest.length + pageSize - 5) / (pageSize - 4))).map fun k =>
    (rest.drop (k * (pageSize - 4))).take (pageSize - 4)
  let first := l.next
  let pages := chunks.zipIdx.map fun (chunk, k) =>
    let nextPage := if k + 1 < chunks.length then first + k + 1 else 0
    (first + k, ByteArray.mk (bigEndian nextPage 4 ++ chunk ++ List.replicate (pageSize - 4 - chunk.length) 0).toArray)
  (first, { next := first + chunks.length, pages := l.pages ++ pages })

def leafCell (rowid : Nat) (values : List SqlValue) (l : Layout) : List UInt8 × Layout :=
  let payload := record values
  let keep := localSize payload.length
  let head := varint payload.length ++ varint rowid ++ payload.take keep
  if keep = payload.length then (head, l)
  else
    let (first, l) := overflowChain (payload.drop keep) l
    (head ++ bigEndian first 4, l)

/-- A b-tree page holding cells: its kind, its cells (placed from the end of the page down),
the right-most child of an interior page, and where its header starts. -/
def btreePage (kind : UInt8) (cells : List (List UInt8)) (right : Option Nat) (start : Nat) : List UInt8 :=
  let headerSize := if right.isSome then 12 else 8
  let offsets := cells.foldl (fun (acc : List Nat × Nat) c => (acc.1 ++ [acc.2 - c.length], acc.2 - c.length))
    ([], pageSize)
  let contentStart := offsets.2
  let header := [kind, 0, 0] ++ bigEndian cells.length 2 ++ bigEndian contentStart 2 ++ [0] ++
    (match right with
     | some p => bigEndian p 4
     | none => [])
  let pointers := offsets.1.flatMap fun o => bigEndian o 2
  let used := start + headerSize + pointers.length
  let content := cells.reverse.flatten
  List.replicate start 0 ++ header ++ pointers ++ List.replicate (contentStart - used) 0 ++ content

def pack {α : Type} (room : Nat) (size : α → Nat) : List α → List (List α)
  | [] => []
  | x :: xs =>
    match pack room size xs with
    | [] => [[x]]
    | run :: runs =>
      if size x + (run.map size).sum ≤ room then (x :: run) :: runs else [x] :: run :: runs

/-- Lays out the levels of a b-tree above its nodes, given as their page contents builders and
greatest row numbers, until one root remains; `rootPage` is where the root must go, if fixed.
Returns the root's page number. -/
def layoutLevels (rootPage : Option Nat) (start : Nat) :
    Nat → List ((Nat → Option Nat → List UInt8) × Nat) → Layout → Nat × Layout
  | 0, _, l => (0, l)
  | _, [], l =>
    match rootPage with
    | some p => (p, { l with pages := l.pages ++ [(p, ByteArray.mk (btreePage 0x0D [] none start).toArray)] })
    | none =>
      let (p, l) := l.take
      (p, { l with pages := l.pages ++ [(p, ByteArray.mk (btreePage 0x0D [] none 0).toArray)] })
  | _, [(build, _)], l =>
    match rootPage with
    | some p => (p, { l with pages := l.pages ++ [(p, ByteArray.mk (build start none).toArray)] })
    | none =>
      let (p, l) := l.take
      (p, { l with pages := l.pages ++ [(p, ByteArray.mk (build 0 none).toArray)] })
  | fuel + 1, nodes, l =>
    -- Write this level's nodes, then group them under interior pages.
    let (placed, l) := nodes.foldl (fun (acc : List (Nat × Nat) × Layout) (build, key) =>
      let (p, l) := acc.2.take
      (acc.1 ++ [(p, key)], { l with pages := l.pages ++ [(p, ByteArray.mk (build 0 none).toArray)] }))
      ([], l)
    let cellOf := fun (child : Nat × Nat) => bigEndian child.1 4 ++ varint child.2
    let groups := pack (pageSize - 112) (fun c => (cellOf c).length + 2) placed
    let parents := groups.map fun g =>
      let cells := (g.dropLast).map cellOf
      let right := (g.getLast?.map (·.1)).getD 0
      ((fun (s : Nat) (_ : Option Nat) => btreePage 0x05 cells (some right) s), (g.getLast?.map (·.2)).getD 0)
    layoutLevels rootPage start fuel parents l

def layoutTable (rootPage : Option Nat) (start : Nat) (rows : List (List SqlValue)) (l : Layout) :
    Nat × Layout :=
  let (cells, l) := rows.zipIdx.foldl (fun (acc : List (Nat × List UInt8) × Layout) (row, k) =>
    let (c, l) := leafCell (k + 1) row acc.2
    (acc.1 ++ [(k + 1, c)], l)) ([], l)
  let room := pageSize - start - 8
  let leaves := pack room (fun (c : Nat × List UInt8) => c.2.length + 2) cells
  let nodes := leaves.map fun leaf =>
    ((fun (s : Nat) (_ : Option Nat) => btreePage 0x0D (leaf.map (·.2)) none s),
      (leaf.getLast?.map (·.1)).getD 0)
  layoutLevels rootPage start (cells.length + 2) nodes l

def createSql (t : SqlTable) : String :=
  "CREATE TABLE " ++ quoteIdent t.name ++ " (" ++ ", ".intercalate (t.columns.map quoteIdent) ++ ")"

def fileHeader (pages : Nat) : List UInt8 :=
  "SQLite format 3".toUTF8.toList ++ [0] ++ bigEndian pageSize 2 ++ [1, 1, 0, 64, 32, 32] ++
    bigEndian 1 4 ++ bigEndian pages 4 ++ bigEndian 0 4 ++ bigEndian 0 4 ++ bigEndian 1 4 ++
    bigEndian 4 4 ++ bigEndian 0 4 ++ bigEndian 0 4 ++ bigEndian 1 4 ++ bigEndian 0 4 ++
    bigEndian 0 4 ++ bigEndian 0 4 ++ List.replicate 20 0 ++ bigEndian 1 4 ++ bigEndian 3046001 4

def Database.encode (db : Database) : ByteArray :=
  let (roots, l) := db.tables.foldl (fun (acc : List Nat × Layout) t =>
    let (root, l) := layoutTable none 0 t.rows acc.2
    (acc.1 ++ [root], l)) ([], ⟨2, []⟩)
  let schemaRows := (db.tables.zip roots).map fun (t, root) =>
    [SqlValue.text "table", .text t.name, .text t.name, .integer root, .text (createSql t)]
  let (_, l) := layoutTable (some 1) 100 schemaRows l
  let count := l.next - 1
  let page := fun (n : Nat) => ((l.pages.lookup n).map (·.toList)).getD (List.replicate pageSize 0)
  let first := page 1
  ByteArray.mk (fileHeader count ++ first.drop 100 ++ ((List.range (count - 1)).flatMap fun k => page (k + 2))).toArray

def readValue (data : ByteArray) (kind i : Nat) : SqlValue × Nat :=
  let signed := fun (bytes : Nat) =>
    let v := readBigEndian data i bytes
    if v ≥ Nat.pow 2 (8 * bytes - 1) then (v : Int) - Nat.pow 2 (8 * bytes) else v
  match kind with
  | 0 => (.null, i)
  | 1 => (.integer (signed 1), i + 1)
  | 2 => (.integer (signed 2), i + 2)
  | 3 => (.integer (signed 3), i + 3)
  | 4 => (.integer (signed 4), i + 4)
  | 5 => (.integer (signed 6), i + 6)
  | 6 => (.integer (signed 8), i + 8)
  | 7 => (.real (Float.ofBits (readBigEndian data i 8).toUInt64), i + 8)
  | 8 => (.integer 0, i)
  | 9 => (.integer 1, i)
  | k =>
    let n := (k - 12) / 2
    let bytes := data.extract i (i + n)
    (if k % 2 = 0 then .blob bytes else .text (Utf8.decodeLossy bytes), i + n)

def readRecord (data : ByteArray) : List SqlValue :=
  let (headerSize, start) := readVarint data 0
  let rec types (i : Nat) : Nat → List Nat
    | 0 => []
    | fuel + 1 => if i ≥ headerSize then [] else
      let (t, j) := readVarint data i
      t :: types j fuel
  let (values, _) := (types start headerSize).foldl (fun (acc : List SqlValue × Nat) t =>
    let (v, j) := readValue data t acc.2
    (acc.1 ++ [v], j)) ([], headerSize)
  values

def pageBytes (file : ByteArray) (size page : Nat) : ByteArray := file.extract ((page - 1) * size) (page * size)

def readOverflow (file : ByteArray) (size : Nat) : Nat → Nat → Nat → List UInt8
  | 0, _, _ => []
  | fuel + 1, page, want =>
    if page = 0 ∨ want = 0 then []
    else
      let p := pageBytes file size page
      let chunk := (p.extract 4 (min size (4 + want))).toList
      chunk ++ readOverflow file size fuel (readBigEndian p 0 4) (want - chunk.length)

def readTree (file : ByteArray) (size : Nat) : Nat → Nat → List ByteArray
  | 0, _ => []
  | fuel + 1, page =>
    let p := pageBytes file size page
    let start := if page = 1 then 100 else 0
    let kind := (p[start]?.getD 0).toNat
    let count := readBigEndian p (start + 3) 2
    let headerSize := if kind = 5 then 12 else 8
    let cellAt := fun (k : Nat) => readBigEndian p (start + headerSize + 2 * k) 2
    if kind = 13 then
      (List.range count).map fun k =>
        let (len, i) := readVarint p (cellAt k)
        let (_, j) := readVarint p i
        let usable := size
        let most := usable - 35
        let least := (usable - 12) * 32 / 255 - 23
        let keep := if len ≤ most then len
          else
            let m := least + (len - least) % (usable - 4)
            if m ≤ most then m else least
        let here := (p.extract j (j + keep)).toList
        let rest := if keep < len then readOverflow file size (file.size / size + 1) (readBigEndian p (j + keep) 4) (len - keep) else []
        ByteArray.mk (here ++ rest).toArray
    else if kind = 5 then
      ((List.range count).flatMap fun k => readTree file size fuel (readBigEndian p (cellAt k) 4)) ++
        readTree file size fuel (readBigEndian p (start + 8) 4)
    else []

/-- The column names of a table's statement: the first word of each part between its outer
parentheses. -/
def columnsOfSql (sql : String) : List String :=
  let inner := ((sql.splitOn "(").drop 1)
  let body := "(".intercalate inner
  let body := String.ofList ((body.toList.reverse.dropWhile (· != ')')).drop 1).reverse
  (body.splitOn ",").map fun part =>
    let w := String.ofList ((part.toList.dropWhile (· == ' ')).takeWhile (· != ' '))
    if w.startsWith "\"" then ((String.ofList (w.toList.drop 1 |>.dropLast)).replace "\"\"" "\"") else w

def Database.decode? (file : ByteArray) : Option Database :=
  if (file.extract 0 16).toList != "SQLite format 3".toUTF8.toList ++ [0] then none
  else
    let raw := readBigEndian file 16 2
    let size := if raw = 1 then 65536 else raw
    if size < 512 then none
    else
      let fuel := file.size / size + 1
      let schema := (readTree file size fuel 1).map readRecord
      some ⟨schema.filterMap fun row =>
        match row with
        | [.text "table", .text name, _, .integer root, .text sql] =>
          some ⟨name, columnsOfSql sql, (readTree file size fuel root.toNat).map readRecord⟩
        | _ => none⟩

end WikiDump.Sqlite


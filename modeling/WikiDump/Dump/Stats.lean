import WikiDump.Dump.Source
import WikiDump.Number.Notation
/-!
# Dump statistics

The statistics of a dump for one table are gathered from its tuples before any value is
converted to a column type: how many statements of the table and rows were read, how many
values of each kind were met, how many texts could be taken from the input as they are
(borrowed) and how many had to be copied because they hold escapes, and how many NULLs each
column holds. A scan that fails stops the gathering; the counts so far are kept.

The report gives the file, its compression, size and fingerprint, the counts, and per column
the NULLs with their share of the rows to one decimal place (no share when there are no rows).
-/

namespace WikiDump

/-- How many values of each kind were met. -/
structure KindCounts where
  integer : Nat := 0
  float : Nat := 0
  text : Nat := 0
  null : Nat := 0
  deriving Inhabited, Repr

namespace KindCounts

/-- The count of one kind. -/
def get (k : KindCounts) : Kind → Nat
  | .integer => k.integer
  | .float => k.float
  | .text => k.text
  | .null => k.null

def bump (k : KindCounts) : Kind → KindCounts
  | .integer => { k with integer := k.integer + 1 }
  | .float => { k with float := k.float + 1 }
  | .text => { k with text := k.text + 1 }
  | .null => { k with null := k.null + 1 }

end KindCounts

/-- The statistics of a dump for one table. -/
structure DumpStats where
  statements : Nat
  rows : Nat
  borrowed : Nat
  owned : Nat
  kinds : KindCounts
  /-- The NULLs of each column, in column order. -/
  nulls : List Nat
  deriving Inhabited

namespace DumpStats

def empty (width : Nat) : DumpStats := ⟨0, 0, 0, 0, {}, List.replicate width 0⟩

def addValue (s : DumpStats) (column : Nat) (v : Value) : DumpStats :=
  let s := { s with kinds := s.kinds.bump v.kind }
  match v.content with
  | .null => { s with nulls := s.nulls.modify column (· + 1) }
  | .text t => if t.isBorrowed then { s with borrowed := s.borrowed + 1 } else { s with owned := s.owned + 1 }
  | _ => s

def addTuple (s : DumpStats) (values : Array Value) : DumpStats :=
  values.toList.zipIdx.foldl (fun s (v, i) => s.addValue i v) s

/-- Gathers the statistics of a table from a dump, and the error that stopped the scan, if
any. -/
def gather (data : ByteArray) (t : Table) : DumpStats × Option ScanError :=
  let (steps, last) := (Scan.whole data (Decoder.raw t.name t.width)).run
  let s := steps.foldl (fun s (values, _) => s.addTuple values) (empty t.width)
  ({ s with rows := last.rows, statements := last.statements }, last.error)

def percent (part whole : Nat) : String :=
  Notation.fixed (Float.ofNat part / Float.ofNat whole * 100) 1

def report (f : DumpFile) (t : Table) (s : DumpStats) : String :=
  let header :=
    "File: " ++ f.path ++ "\n" ++
    "Compression: " ++ f.compression.name ++ "\n" ++
    "Bytes: " ++ toString f.data.size ++ " (mapped: " ++ toString f.mapped ++ ")\n" ++
    "BLAKE3: " ++ f.fingerprint ++ "\n" ++
    "Table: " ++ t.name ++ "\n" ++
    "Statements: " ++ toString s.statements ++ "\n" ++
    "Total rows: " ++ toString s.rows ++ "\n"
  let values := "\nValues:\n" ++
    String.join ([Kind.integer, .float, .text, .null].map fun k =>
      "  " ++ k.name ++ ": " ++ toString (s.kinds.get k) ++ "\n") ++
    "  text borrowed: " ++ toString s.borrowed ++ ", copied: " ++ toString s.owned ++ "\n"
  let nulls := "\nNULLs per column:\n" ++
    String.join (t.columnNames.zipIdx.map fun (name, i) =>
      let n := s.nulls.getD i 0
      if s.rows = 0 then "  " ++ name ++ ": " ++ toString n ++ "\n"
      else "  " ++ name ++ ": " ++ toString n ++ " (" ++ percent n s.rows ++ "%)\n")
  header ++ values ++ nulls

end DumpStats

end WikiDump


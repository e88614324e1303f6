import WikiDump.Dump.Split
import WikiDump.Schema.Table
import WikiDump.Hash.Blake3
/-!
# Dump sources

A dump file is read as it is, or decompressed first when its name ends in `.gz` (gzip) or `.xz`
(xz). Rows are counted by splitting the dump into regions at statement boundaries, one per
worker, and scanning each region; the first region that fails, in order, gives the error.
-/

namespace WikiDump

/-- How a dump file is stored. -/
inductive Compression where
  | none
  | gzip
  | xz
  deriving BEq, Inhabited

namespace Compression

def ofPath (path : String) : Compression :=
  if path.endsWith ".gz" then .gzip
  else if path.endsWith ".xz" then .xz
  else .none

def name : Compression → String
  | .none => "none"
  | .gzip => "gzip"
  | .xz => "xz"

end Compression

/-- A loaded dump: the path it was read from (`-` for standard input, `<memory>` for bytes
given directly), how it was stored, its decoded bytes, and whether the bytes are the file
itself rather than a copy. -/
structure DumpFile where
  path : String
  compression : Compression
  data : ByteArray
  mapped : Bool
  deriving Inhabited

namespace DumpFile

def ofMemory (data : ByteArray) : DumpFile := ⟨"<memory>", .none, data, false⟩

def fingerprint (f : DumpFile) : String := Blake3.hexDigest f.data

end DumpFile

/-- Scans a dump for a table in `workers` regions: the rows decoded in all regions, each up to
its failure, and the failure of the first region that failed (or of the split), if any. -/
def tally (buf : ByteArray) (t : Table) (workers : Int) : Nat × Option ScanError :=
  match Region.split buf workers with
  | .error e => (0, some e)
  | .ok regions =>
    let counted := regions.map fun r => (Scan.start buf r t.decoder).collect
    (counted.foldl (fun n c => n + c.1.length) 0, counted.findSome? (·.2))

/-- The number of rows of a table in a dump, scanned in `workers` regions. -/
def countRows (buf : ByteArray) (t : Table) (workers : Int) : Except ScanError Nat :=
  match tally buf t workers with
  | (n, none) => .ok n
  | (_, some e) => .error e

end WikiDump


import WikiDump.Disk.Tree
import WikiDump.Dump.Source
import WikiDump.Archive.Gzip
import WikiDump.Archive.Xz
/-!
# Opening dumps

A dump is opened from a path of the working directory, or from standard input when the path is
`-`. The suffix of the path says how the file is stored: `.gz` files are gzip-decompressed and
`.xz` files xz-decompressed into memory, and other files are used as they are (mapped, unless
they are empty). Standard input is read as it is.

Opening fails when the path holds nothing, when it is a directory (which can be neither mapped
nor read), when the compressed file cannot be opened as such, and when decompressing it fails.
-/

namespace WikiDump

/-- Why a dump could not be opened. -/
inductive OpenError where
  | absent (path : String) (why : Absence)
  /-- The path is a directory, opened as a file stored this way. -/
  | directory (path : String) (compression : Compression)
  /-- A gzip file whose first header cannot be read. -/
  | gzipReader (e : Gzip.GzipError)
  /-- An xz file whose first header cannot be read. -/
  | xzReader (e : Xz.XzError)
  | gzipData (path : String) (e : Gzip.GzipError)
  | xzData (path : String) (e : Xz.XzError)
  deriving Inhabited

def OpenError.message : OpenError → String
  | .absent path why => "open dump: open " ++ path ++ ": " ++ why.text
  | .directory path .none => "map " ++ path ++ ": no such device"
  | .directory path .gzip => "gzip reader: read " ++ path ++ ": is a directory"
  | .directory path .xz => "xz reader: read " ++ path ++ ": is a directory"
  | .gzipReader e => "gzip reader: " ++ e.message
  | .xzReader e => "xz reader: " ++ e.message
  | .gzipData path e => "decompress " ++ path ++ ": " ++ e.message
  | .xzData path e => "decompress " ++ path ++ ": " ++ e.message

def Disk.openDump (d : Disk) (stdin : ByteArray) (path : String) : Except OpenError DumpFile :=
  if path = "-" then .ok ⟨path, .none, stdin, false⟩
  else
    let compression := Compression.ofPath path
    match d.lookup path with
    | .error why => .error (.absent path why)
    | .ok .directory => .error (.directory path compression)
    | .ok entry =>
      let bytes := entry.bytes
      match compression with
      | .none => .ok ⟨path, .none, bytes, bytes.size > 0⟩
      | .gzip =>
        match Gzip.header bytes 0 with
        | .error e => .error (.gzipReader e)
        | .ok _ =>
          match Gzip.decompress bytes with
          | .error e => .error (.gzipData path e)
          | .ok data => .ok ⟨path, .gzip, data, false⟩
      | .xz =>
        match Xz.streamHeader bytes 0 with
        | .error e => .error (.xzReader e)
        | .ok _ =>
          match Xz.decompress bytes with
          | .error e => .error (.xzData path e)
          | .ok data => .ok ⟨path, .xz, data, false⟩

end WikiDump


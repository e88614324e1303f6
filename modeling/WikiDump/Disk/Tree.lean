import WikiDump.Export.SqliteFile
/-!
# Files of a working directory

The files a run can see: regular files with their bytes, directories, and SQLite databases that
the run itself wrote. Paths are separated by `/` and lead from the working directory, or from
the root when they start with `/`. A path is looked up after lexical cleaning (empty and `.`
parts dropped, `..` taking back the part before it), and every directory that holds an entry
exists even when it is not listed.

Looking a path up says what is there, or why nothing is: no entry, or a part of the path that
is a file and so cannot hold others.
-/

namespace WikiDump

/-- What a path can hold. -/
inductive Entry where
  | file (bytes : ByteArray)
  | directory
  | database (db : Sqlite.Database)
  deriving Inhabited

/-- The bytes an entry gives when read as a file: a database gives its file. -/
def Entry.bytes : Entry → ByteArray
  | .file b => b
  | .database db => db.encode
  | .directory => .empty

/-- The files of a working directory, by cleaned path. -/
structure Disk where
  entries : List (String × Entry)
  deriving Inhabited

/-- Why a path holds nothing. -/
inductive Absence where
  /-- No entry has this path. -/
  | missing
  /-- A part of the path before its end is a file. -/
  | notDirectory
  deriving Inhabited, BEq

def Absence.text : Absence → String
  | .missing => "no such file or directory"
  | .notDirectory => "not a directory"

namespace Disk

/-- The parts of a path after lexical cleaning. -/
def parts (path : String) : List String :=
  ((path.splitOn "/").filter (fun p => !p.isEmpty && p != ".")).foldl (fun acc p =>
    if p == ".." then
      match acc.getLast? with
      | some last => if last == ".." then acc ++ [p] else acc.dropLast
      | none => acc ++ [p]
    else acc ++ [p]) []

/-- What a cleaned path starts with: `/` for a path from the root, nothing for a path from the
working directory. -/
def root (path : String) : String := if path.startsWith "/" then "/" else ""

def clean (path : String) : String := root path ++ "/".intercalate (parts path)

def lookup (d : Disk) (path : String) : Except Absence Entry :=
  let ps := parts path
  let key := clean path
  -- A proper prefix that is a file blocks the path.
  let blocked := (List.range ps.length).any fun n =>
    n > 0 && match d.entries.lookup (root path ++ "/".intercalate (ps.take n)) with
      | some (.file _) | some (.database _) => true
      | _ => false
  if blocked then .error .notDirectory
  else if ps.isEmpty then .ok .directory
  else
    match d.entries.lookup key with
    | some e => .ok e
    | none =>
      if d.entries.any (fun (k, _) => k.startsWith (key ++ "/")) then .ok .directory
      else .error .missing

def parentExists (d : Disk) (path : String) : Bool :=
  let ps := parts path
  match d.lookup (root path ++ "/".intercalate ps.dropLast) with
  | .ok .directory => true
  | _ => false

def write (d : Disk) (path : String) (e : Entry) : Disk :=
  let key := clean path
  ⟨(d.entries.filter (·.1 != key)) ++ [(key, e)]⟩

end Disk

end WikiDump


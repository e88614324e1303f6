import WikiDump.Command.Dumps
/-!
# Loading a dump into SQLite

`export` reads one dump and loads its rows into the SQLite database that `--sqlite` names,
committing every `--batch` rows. The database is opened before the rows are read: an existing
database or database file is kept, an empty file or a missing file in an existing directory
becomes a new database, and any other file is refused as not a database. A path that cannot be opened at all
is refused the way the database library reports it. An empty path names a database that lives
only for the run.

The database is written back even when a row fails to decode, holding the batches committed
before it.
-/

namespace WikiDump.Command

/-- Why a database could not be opened. -/
inductive DatabaseRefusal where
  /-- The path cannot be opened: a missing directory, a directory, or a file in its way. -/
  | cannotOpen
  /-- The path holds a file that is not a database. -/
  | notDatabase
  deriving Inhabited

def DatabaseRefusal.message (path : String) : DatabaseRefusal → String
  | .cannotOpen => "configure sqlite " ++ path ++ ": unable to open database file: out of memory (14)"
  | .notDatabase => "configure sqlite " ++ path ++ ": file is not a database (26)"

def openDatabase (d : Disk) (path : String) : Except DatabaseRefusal Sqlite.Database :=
  if path.isEmpty then .ok .empty
  else
    match d.lookup path with
    | .ok (.database db) => .ok db
    | .ok (.file b) =>
      if b.size = 0 then .ok .empty
      else
        match Sqlite.Database.decode? b with
        | some db => .ok db
        | none => .error .notDatabase
    | .ok .directory => .error .cannotOpen
    | .error .missing => if d.parentExists path then .ok .empty else .error .cannotOpen
    | .error .notDirectory => .error .cannotOpen

def exportDump (s : Session) (args : List String) : Step Unit := do
  let (f, t) ← s.openDump args
  let target := s.text "sqlite"
  let db ← require ((openDatabase (← get).disk target).mapError (·.message target))
  s.log (.scanStarted t.name f.path 1)
  let l := Sqlite.load db t f.data (s.int "batch")
  if !target.isEmpty then modify fun c => { c with disk := c.disk.write target (.database l.database) }
  match l.error with
  | some e =>
    s.log (.scanFailed t.name e.message [("inserted", .int l.inserted)])
    throw (e.withContext f.data)
  | none =>
    s.log (.scanFinished t.name l.inserted s.invocation.elapsed [("sqlite", .text target)])
    say ("Inserted " ++ toString l.inserted ++ " row(s) into " ++ target ++ "." ++ t.name ++ "\n")

/-- Reads back a table of the database at a path: none when nothing is there, else the table or
why it cannot be read. -/
def readTable (d : Disk) (path table : String) : Option (Except String Sqlite.SqlTable) :=
  match d.lookup path with
  | .error _ => none
  | .ok e =>
    let db : Except String Sqlite.Database := match e with
      | .database db => .ok db
      | .file b =>
        if b.size = 0 then .ok .empty
        else (Sqlite.Database.decode? b).elim (.error "file is not a database (26)") .ok
      | .directory => .error "unable to open database file: out of memory (14)"
    some (db.bind fun db =>
      match db.table? table with
      | some t => .ok t
      | none => .error ("SQL logic error: no such table: " ++ table ++ " (1)"))

end WikiDump.Command


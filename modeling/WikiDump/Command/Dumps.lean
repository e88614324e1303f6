import WikiDump.Command.Console
import WikiDump.Command.Arguments
import WikiDump.Dump.Stats
import WikiDump.Engine.Row
/-!
# Commands that read one dump

`tables` lists the tables that can be decoded. `count`, `dump`, `validate`, `stats` and `filter`
read one dump, named by their first argument; the table that decodes it is their second
argument, or the one its file name suggests. The table is checked before the file is opened.

A failed scan is reported with the input around the failing offset, and logged with the rows
seen before it. `count` and `validate` scan in as many regions as the settings ask for; the
others scan the whole dump at once.
-/

namespace WikiDump.Command

namespace Session

def openDump (s : Session) (args : List String) : Step (DumpFile × Table) := do
  let path := args.headD ""
  let t ← require (Tables.lookup (args[1]?.getD (Tables.ofPath path)))
  let f ← s.openFile path
  s.log (.fileOpened f.path f.compression.name f.data.size f.mapped)
  return (f, t)

end Session

def listTables : Step Unit :=
  say (String.join (Tables.all.map fun t =>
    t.name ++ " (" ++ toString t.width ++ " columns)\n  " ++ ", ".intercalate t.columnNames ++ "\n"))

def countDump (s : Session) (args : List String) : Step Unit := do
  let (f, t) ← s.openDump args
  let workers := s.settings.workers
  s.log (.scanStarted t.name f.path workers)
  match tally f.data t workers with
  | (n, some e) =>
    s.log (.scanFailed t.name e.message [("rows", .int n)])
    throw (e.withContext f.data)
  | (n, none) =>
    s.log (.scanFinished t.name n s.invocation.elapsed [("workers", .int workers)])
    say (toString n ++ "\n")

def dumpRows (s : Session) (args : List String) : Step Unit := do
  let format ← s.outputFormat "format"
  let (f, t) ← s.openDump args
  s.log (.scanStarted t.name f.path 1)
  let (rows, err) := (Scan.whole f.data t.decoder).collect
  let (w, failure) := RowWriter.writeAll { format, pretty := s.settings.pretty } (rows.map fun r => .ok (t.rowJson r))
  match failure, err with
  | some m, _ =>
    say w.out
    throw m
  | none, some e =>
    say w.out
    s.log (.scanFailed t.name e.message [("rows", .int w.written)])
    throw (e.withContext f.data)
  | none, none =>
    s.log (.scanFinished t.name w.written s.invocation.elapsed [])
    say w.close.out

def validateDump (s : Session) (args : List String) : Step Unit := do
  let (f, t) ← s.openDump args
  match tally f.data t s.settings.workers with
  | (_, some e) =>
    s.log (.scanFailed t.name e.message [])
    let m := e.withContext f.data
    say ("❌ Validation failed: " ++ m ++ "\n")
    throw m
  | (n, none) =>
    s.log (.scanFinished t.name n s.invocation.elapsed [])
    say ("✅ Valid " ++ t.name ++ " dump with " ++ toString n ++ " row(s)\n")

def statsOfDump (s : Session) (args : List String) : Step Unit := do
  let (f, t) ← s.openDump args
  match DumpStats.gather f.data t with
  | (_, some e) => throw (e.withContext f.data)
  | (st, none) => say (DumpStats.report f t st)

def filterRows (s : Session) (args : List String) : Step Unit := do
  let expr ← require ((Command.filterOfArguments (s.text "where") (s.text "field") (s.text "op")
    (s.text "value")).mapError (·.message))
  let format ← s.outputFormat "format"
  let (f, t) ← s.openDump args
  s.log (.scanStarted t.name f.path 1)
  let (decoded, err) := (Scan.whole f.data t.decoder).collect
  let rows := decoded.map (Engine.Row.ofDecoded t)
  let matched := rows.filter fun r => expr.eval (Engine.Row.record r)
  let (w, failure) := RowWriter.writeAll { format, pretty := s.settings.pretty } (matched.map Engine.Row.json)
  match failure, err with
  | some m, _ =>
    say w.out
    throw m
  | none, some e =>
    say w.out
    s.log (.scanFailed t.name e.message [("rows", .int rows.length)])
    throw (e.withContext f.data)
  | none, none =>
    s.log (.scanFinished t.name rows.length s.invocation.elapsed
      [("matched", .int w.written), ("filter", .text expr.render)])
    say w.close.out

end WikiDump.Command


import WikiDump.Command.Console
import WikiDump.Command.Arguments
import WikiDump.Command.Prompt
import WikiDump.Engine.Session
import WikiDump.Field.Datum
import WikiDump.Text.Space
/-!
# Commands that query dumps

`query` and `interactive` load the dumps their `--table` flags name into a catalog, each under
its own name, and stop at the first that cannot be read. `query` runs one query, or shows its
plan; rows written before a failure stay written. `interactive` reads lines from its input
until one says `exit` or `quit` (in any letter case), the input ends, or Ctrl-C is typed on an
empty line; a failing line is reported and the session goes on.
-/

namespace WikiDump.Command

def Session.catalog (s : Session) (specs : List String) : Step Engine.Catalog :=
  specs.foldlM (fun c arg => do
    let spec ← require (TableSpec.parse arg)
    let f ← s.openFile spec.path
    s.log (.fileOpened f.path f.compression.name f.data.size f.mapped)
    return c.register spec.name ⟨spec.schema, f.data⟩) {}

def runQuery (s : Session) (args : List String) : Step Unit := do
  let format ← s.outputFormat "format"
  let c ← s.catalog (s.texts "table")
  let p ← require ((Engine.prepare (args.headD "") c).mapError (·.message))
  if s.bool "explain" then say ("Execution Plan:\n" ++ p.format)
  else
    let run := Engine.execute p format s.settings.pretty
    say run.output
    match run.error with
    | some e =>
      s.log (.scanFailed "query" e.message [("rows", .int run.written)])
      throw e.message
    | none =>
      s.log (.scanFinished "query" run.written s.invocation.elapsed [("tables", .text (",".intercalate c.names))])

def answerLines (c : Engine.Catalog) (pretty : Bool) : List LineRead → Step Unit
  | [] => pure ()
  | .interrupted typed :: rest => if typed.isEmpty then pure () else answerLines c pretty rest
  | .line text :: rest => do
    let line := Space.trim text
    if line.isEmpty then answerLines c pretty rest
    else if CaseInsensitive.equal line "exit" || CaseInsensitive.equal line "quit" then pure ()
    else
      let reply := Engine.interact c line pretty
      say reply.output
      match reply.error with
      | some e => complain ("Error: " ++ e.message ++ "\n")
      | none => pure ()
      answerLines c pretty rest

def runInteractive (s : Session) : Step Unit := do
  let c ← s.catalog (s.texts "table")
  say "Interactive mode enabled. Type 'exit' or 'quit' to leave.\n"
  say ("Tables: " ++ ", ".intercalate c.names ++ "\n")
  answerLines c s.settings.pretty (reads (Utf8.decodeLossy s.invocation.stdin))

end WikiDump.Command


import WikiDump.Cli.Spec
import WikiDump.Text.Space
/-!
# Help and usage texts

The help of a command is its long description (or its short one when it has none), a blank
line, and its usage. The usage lists, under headings: the usage line of a command that runs
and the form `<path> [command]` of one with commands below it; those commands, sorted by name
and padded to a common width, with their short descriptions; the command's own flags; the flags
passed down to it; and, when there are commands below it, how to get their help.

A list of flags is sorted by long name. Each line shows the short and long names, the kind of
value, and then, aligned in one column, the usage and the default when it is not the zero
value.
-/

namespace WikiDump.Cli

def flagLines (flags : List Flag) : String :=
  let sorted := flags.mergeSort (fun a b => decide (a.name ≤ b.name))
  let left := fun (f : Flag) =>
    (match f.short with
     | some c => "  -" ++ c.toString ++ ", --" ++ f.name
     | none => "      --" ++ f.name) ++
    (if f.valueName.isEmpty then "" else " " ++ f.valueName)
  let width := sorted.foldl (fun w f => max w ((left f).utf8ByteSize + 1)) 0
  String.join (sorted.map fun f =>
    let l := left f
    let shown := match f.shownDefault with
      | some d => " (default " ++ d ++ ")"
      | none => ""
    l ++ " " ++ String.ofList (List.replicate (width - l.utf8ByteSize) ' ') ++ " " ++ f.usage ++ shown ++ "\n")

def padRight (s : String) (width : Nat) : String :=
  s ++ String.ofList (List.replicate (width - s.length) ' ')

namespace Program

def offersCommands (p : Program) (c : Command) : Bool := (p.children c.path).any p.available

def useLine (p : Program) (c : Command) : String :=
  let line := if c.path.isEmpty then c.use else p.commandPath c.path.dropLast ++ " " ++ c.use
  if c.flagsInUseLine && (line.splitOn "[flags]").length ≤ 1 then line ++ " [flags]" else line

def namePadding (p : Program) (path : List String) : Nat :=
  (p.children path).foldl (fun w c => max w c.name.length) 11

def usage (p : Program) (path : List String) : String :=
  let c := p.command path
  let below := p.offersCommands c
  let own := c.flags ++ c.persistent ++ [c.helpFlag]
  let passed := p.inherited path
  let listed := ((p.children path).filter fun d => p.available d || d.isHelp).mergeSort
    (fun a b => decide (a.name ≤ b.name))
  "Usage:" ++
    (if c.runnable then "\n  " ++ p.useLine c else "") ++
    (if below then "\n  " ++ p.commandPath path ++ " [command]" else "") ++
    (if below then
      "\n\nAvailable Commands:" ++ String.join (listed.map fun d =>
        "\n  " ++ padRight d.name (p.namePadding path) ++ " " ++ d.short)
     else "") ++
    "\n\nFlags:\n" ++ Space.trimEnd (flagLines own) ++
    (if passed.isEmpty then "" else "\n\nGlobal Flags:\n" ++ Space.trimEnd (flagLines passed)) ++
    (if below then
      "\n\nUse \"" ++ p.commandPath path ++ " [command] --help\" for more information about a command."
     else "") ++
    "\n"

/-- The help of the command at a path. -/
def help (p : Program) (path : List String) : String :=
  let c := p.command path
  let about := if c.long.isEmpty then c.short else c.long
  (if about.isEmpty then "" else Space.trimEnd about ++ "\n\n") ++
    (if c.runnable || !(p.children path).isEmpty then p.usage path else "")

end Program

end WikiDump.Cli


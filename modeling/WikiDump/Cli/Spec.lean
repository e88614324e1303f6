import WikiDump.Cli.Flag
/-!
# Commands of a program

A program is a tree of commands named by their paths: the root has the empty path, and each
command below it adds its name. A command has a usage line, a short and a long description, the
flags it owns, the persistent flags it passes on to itself and every command below it, a rule
for its positional arguments, and groups of flags of which at most one may be set.

Every command also has a `help` flag. A command that cannot run by itself only groups the
commands below it, and asking to run it shows its help.
-/

namespace WikiDump.Cli

/-- How many positional arguments a command accepts. -/
inductive Arity where
  /-- No rule: a command that groups others refuses an unknown first word instead. -/
  | unchecked
  /-- None at all: the first one is named as an unknown command. -/
  | none
  | exactly (n : Nat)
  | between (lo hi : Nat)
  | atLeast (n : Nat)
  deriving Inhabited

/-- A command. -/
structure Command where
  /-- The path of names from the root; empty for the root. -/
  path : List String
  use : String
  short : String := ""
  long : String := ""
  flags : List Flag := []
  persistent : List Flag := []
  arity : Arity := .unchecked
  runnable : Bool := true
  /-- Groups of flags of which at most one may be set. -/
  exclusive : List (List String) := []
  /-- Whether the usage line ends with `[flags]`. -/
  flagsInUseLine : Bool := true
  /-- Whether this is the help command, listed among commands but never suggested. -/
  isHelp : Bool := false
  deriving Inhabited

namespace Command

def name (c : Command) : String := ((c.use.splitOn " ").head?).getD ""

def helpFlag (c : Command) : Flag :=
  { name := "help", short := some 'h', initial := .bool false, usage := "help for " ++ c.name }

end Command

/-- A program: its commands, the root first and every other one after its parent, in the order
they were added. -/
structure Program where
  commands : List Command
  deriving Inhabited

namespace Program

def root (p : Program) : Command := (p.commands.head?).getD default

def command? (p : Program) (path : List String) : Option Command := p.commands.find? (·.path == path)

def command (p : Program) (path : List String) : Command := (p.command? path).getD p.root

def children (p : Program) (path : List String) : List Command :=
  p.commands.filter fun c => c.path.length == path.length + 1 && c.path.take path.length == path

def child? (p : Program) (path : List String) (name : String) : Option Command :=
  (p.children path).find? (·.name == name)

/-- Whether a command can be offered: it runs, or some command below it can be offered. The
help command is never offered. -/
def available (p : Program) (c : Command) : Bool :=
  !c.isHelp && (c.runnable || (p.children c.path).any fun d => !d.isHelp && d.runnable)

def commandPath (p : Program) (path : List String) : String :=
  " ".intercalate (p.root.name :: path)

def inherited (p : Program) (path : List String) : List Flag :=
  ((List.range path.length).filterMap fun n => p.command? (path.take n)).flatMap (·.persistent)

/-- The flags a command knows while its command is being looked for: its own, its persistent
ones, and those passed down to it. -/
def knownFlags (p : Program) (path : List String) : List Flag :=
  let c := p.command path
  c.flags ++ c.persistent ++ p.inherited path

def allFlags (p : Program) (path : List String) : List Flag :=
  let c := p.command path
  c.flags ++ [c.helpFlag] ++ c.persistent ++ p.inherited path

end Program

def findLong (fs : List Flag) (name : String) : Option Flag := fs.find? (·.name == name)

def findShort (fs : List Flag) (c : Char) : Option Flag := fs.find? (·.short == some c)

end WikiDump.Cli


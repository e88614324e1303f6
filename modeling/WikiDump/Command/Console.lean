import WikiDump.Disk.Open
import WikiDump.Settings.Basic
import WikiDump.Log.Event
import WikiDump.Cli.Parse
import WikiDump.Command.Tree
import WikiDump.Text.Utf8
import WikiDump.Export.RowWriter
/-!
# Runs of the program

A run is given its command line, its environment, its standard input, the files of its working
directory and the clock readings its log lines show. It writes standard output and standard
error, may change the files, and ends with an exit code.

A command runs in a session: the settings in force (defaults, then the configuration file, then
the environment, then the flags of the command line, checked twice) and the logger they choose,
whose lines carry the run's identifier. Steps of a command write to the console and may fail
with a message; what they wrote before failing stays written.
-/

namespace WikiDump.Command

/-- What a run of the program is given. -/
structure Invocation where
  args : List String
  env : List (String × String)
  stdin : ByteArray
  disk : Disk
  /-- The time stamp of log lines. -/
  now : String
  /-- The identifier of the run, carried by every log line of a command. -/
  runId : String
  /-- The duration that a finished scan reports. -/
  elapsed : Log.Value
  deriving Inhabited

/-- What a run has written: standard output, standard error, and the files. -/
structure Console where
  out : String
  err : String
  disk : Disk
  deriving Inhabited

abbrev Step := ExceptT String (StateM Console)

def say (s : String) : Step Unit := modify fun c => { c with out := c.out ++ s }

def complain (s : String) : Step Unit := modify fun c => { c with err := c.err ++ s }

def require {α : Type} (r : Except String α) : Step α :=
  match r with
  | .ok a => pure a
  | .error m => throw m

/-- A command about to run: the invocation, the command's path, the flags its command line
set, the settings in force and the logger. -/
structure Session where
  invocation : Invocation
  path : List String
  flags : Cli.FlagSettings
  settings : Settings
  logger : Log.Logger
  deriving Inhabited

namespace Session

/-- Writes a log line. -/
def log (s : Session) (e : Log.Event) : Step Unit := complain (s.logger.line s.invocation.now e)

def flag (s : Session) (name : String) : Cli.FlagValue :=
  match s.flags.lookup name with
  | some v => v
  | none =>
    match Cli.findLong (program.allFlags s.path) name with
    | some f => f.initial
    | none => .text ""

def text (s : Session) (name : String) : String :=
  match s.flag name with
  | .text t => t
  | _ => ""

def int (s : Session) (name : String) : Int :=
  match s.flag name with
  | .int n => n
  | _ => 0

def bool (s : Session) (name : String) : Bool :=
  match s.flag name with
  | .bool b => b
  | _ => false

def texts (s : Session) (name : String) : List String :=
  match s.flag name with
  | .texts xs => xs
  | _ => []

def isSet (s : Session) (name : String) : Bool := s.flags.isSet name

def outputFormat (s : Session) (name : String) : Step Format :=
  require (Format.parse (if s.isSet name then s.text name else s.settings.outputFormat))

def openFile (s : Session) (path : String) : Step DumpFile := do
  match (← get).disk.openDump s.invocation.stdin path with
  | .ok f => pure f
  | .error e => throw e.message

end Session

/-- The bytes of the configuration file at a path, or why it cannot be read; none when no path
is given. -/
def readConfig (d : Disk) (path : String) : Except String (Option ByteArray) :=
  if path.isEmpty then .ok none
  else
    match d.lookup path with
    | .error why => .error ("read config: open " ++ path ++ ": " ++ why.text)
    | .ok .directory => .error ("read config: read " ++ path ++ ": is a directory")
    | .ok e => .ok (some e.bytes)

def configPath (flags : Cli.FlagSettings) : String :=
  match flags.lookup "config" with
  | some (.text p) => p
  | _ => ""

def settingsOf (inv : Invocation) (flags : Cli.FlagSettings) : Except String Settings := do
  let config ← readConfig inv.disk (configPath flags)
  let loaded ← Settings.load config inv.env
  let s := flags.foldl (fun (s : Settings) (name, v) =>
    match name, v with
    | "log-level", .text t => { s with logLevel := t }
    | "log-format", .text t => { s with logFormat := t }
    | "pretty", .bool b => { s with pretty := b }
    | "workers", .int n => { s with workers := n }
    | _, _ => s) loaded
  s.validate

/-- The session of a command line: its settings and the logger they choose. -/
def Session.start (inv : Invocation) (path : List String) (flags : Cli.FlagSettings) :
    Except String Session := do
  let settings ← settingsOf inv flags
  let level ← Log.Level.parse settings.logLevel
  let layout ← Log.Layout.parse settings.logFormat
  return ⟨inv, path, flags, settings, { level, layout, context := [("run_id", .text inv.runId)] }⟩

end WikiDump.Command


import WikiDump.Command.Dumps
import WikiDump.Command.Queries
import WikiDump.Command.Export
import WikiDump.Command.Redirects
import WikiDump.Cli.Help
import WikiDump.Field.Instant
import WikiDump.Text.Hex
/-!
# Running the program

A run reads its command line. A refused command line is reported on standard error, and a
request for help is answered on standard output. Otherwise the session of the command is set
up from the configuration, the environment and the flags; then the required flags and the
exclusive groups of flags are checked, and the command runs. A failure is reported on standard
error as `Error: ` and its message, after whatever the command wrote, and the run exits with 1.

The `help` command shows the help of the command its arguments name. When they name none, it
says so on standard error, followed by the usage of the root.
-/

namespace WikiDump.Command

/-- What a run of the program did: its exit code, what it wrote, and the files after it. -/
structure Outcome where
  exit : Nat
  stdout : String
  stderr : String
  disk : Disk
  deriving Inhabited

def rawQuoted (s : String) : String :=
  if s.any fun c => (c.toNat < 0x20 && c != '\t') || c == '`' || c.toNat == 0x7F || c.toNat == 0xFEFF then
    Quoted.ofString s
  else "`" ++ s ++ "`"

def helpTopic (words : List String) : Step Unit :=
  match program.find words with
  | .ok (path, _) => say (program.help path)
  | .error _ =>
    complain ("Unknown help topic [" ++ " ".intercalate (words.map rawQuoted) ++ "]\n" ++ program.usage [])

def Session.runCommand (s : Session) (args : List String) : Step Unit :=
  match s.path with
  | ["tables"] => listTables
  | ["count"] => countDump s args
  | ["dump"] => dumpRows s args
  | ["validate"] => validateDump s args
  | ["stats"] => statsOfDump s args
  | ["filter"] => filterRows s args
  | ["query"] => runQuery s args
  | ["interactive"] => runInteractive s
  | ["export"] => exportDump s args
  | ["redirects"] => listRedirectPages s args
  | ["help"] => helpTopic args
  | _ => pure ()

/-- Runs the program. -/
def run (inv : Invocation) : Outcome :=
  let refuse := fun (message : String) => Outcome.mk 1 "" ("Error: " ++ message ++ "\n") inv.disk
  match program.request inv.args with
  | .error r => { refuse r.message with stderr := "Error: " ++ r.message ++ "\n" ++ r.hintLine }
  | .ok (.help path) => ⟨0, program.help path, "", inv.disk⟩
  | .ok (.run path flags args) =>
    match Session.start inv path flags with
    | .error m => refuse m
    | .ok s =>
      match program.missingFlags path flags <|> program.exclusiveClash path flags with
      | some m => refuse m
      | none =>
        match (s.runCommand args).run.run ⟨"", "", inv.disk⟩ with
        | (.ok (), c) => ⟨0, c.out, c.err, c.disk⟩
        | (.error m, c) => ⟨1, c.out, c.err ++ "Error: " ++ m ++ "\n", c.disk⟩

/-- The paths a command line may lead a run to read: every argument, what follows `=` or a
short flag's letter in one, the files the commands read by default, and the siteinfo file the
settings name when the files already at hand let them be worked out. -/
def pathsNamed (args : List String) (env : List (String × String)) (disk : Disk) : List String :=
  let values := args.filterMap fun a =>
    match a.splitOn "=" with
    | _ :: rest@(_ :: _) => some ("=".intercalate rest)
    | _ => none
  let attached := (args.filter fun a => a.startsWith "-" && !a.startsWith "--").map fun a => (a.drop 2).toString
  let configured := match program.request args with
    | .ok (.run _ flags _) =>
      match settingsOf ⟨args, env, .empty, disk, "", "", .int 0⟩ flags with
      | .ok s => [s.siteinfoPath]
      | .error _ => []
    | _ => []
  (args ++ values ++ attached ++ ["page.sql", "redirect.sql", "siteinfo-namespaces.json"] ++ configured).eraseDups

/-- The environment variables a command line's settings may read, given the files the disk
holds: those of the default settings and of every key of the configuration file. -/
def environmentNamed (args : List String) (disk : Disk) : List String :=
  let config := match program.request args with
    | .ok (.run _ flags _) => (readConfig disk (configPath flags)).toOption.getD none
    | _ => none
  Settings.environmentNames config

def readsInput (args : List String) : Bool :=
  (pathsNamed args [] ⟨[]⟩).contains "-" ||
    match program.request args with
    | .ok (.run ["interactive"] _ _) => true
    | _ => false

def Invocation.reportsDuration (inv : Invocation) : Bool :=
  match program.request inv.args with
  | .ok (.run path flags _) =>
    match Session.start inv path flags with
    | .ok s => s.logger.level.rank ≤ Log.Level.info.rank
    | .error _ => false
  | _ => false

/-- A run identifier made from sixteen random bytes, written as a random UUID: the version (4)
and variant bits set, in groups of 8, 4, 4, 4 and 12 hexadecimal digits. -/
def runIdOf (random : List UInt8) : String :=
  let bytes : List UInt8 := ((random ++ List.replicate 16 (0 : UInt8)).take 16).zipIdx.map fun (b, i) =>
    if i = 6 then (b &&& 0x0f) ||| 0x40 else if i = 8 then (b &&& 0x3f) ||| 0x80 else b
  let hex := (Hex.encode (ByteArray.mk bytes.toArray)).toList
  let part := fun (a b : Nat) => String.ofList ((hex.drop a).take (b - a))
  part 0 8 ++ "-" ++ part 8 12 ++ "-" ++ part 12 16 ++ "-" ++ part 16 20 ++ "-" ++ part 20 32

def timeStamp (seconds : Nat) : String := (Instant.ofUnixSeconds seconds).rfc3339

end WikiDump.Command


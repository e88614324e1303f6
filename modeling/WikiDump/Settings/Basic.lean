import WikiDump.Settings.Layers
import WikiDump.Number.Reading
import WikiDump.Number.Notation
/-!
# Settings

The settings of a run: the log level and layout, the number of scan workers, the output format
and indentation, and where the namespace names of a wiki are kept.

They are read from the settings tree of the layered lookup (environment, configuration file,
defaults), section by section: `log` (`level`, `format`), `scan` (`workers`), `output`
(`format`, `pretty`) and `siteinfo` (`path`). A section must be a mapping; a timestamp counts as
a mapping without entries. Names are matched exactly, or failing that without regard to case.
A setting the tree does not hold is left empty: the empty text, zero, or false.

A value of another type than its setting is converted when that is possible:

* to text: booleans as `1` or `0`, integers in decimal, doubles in positional notation;
* to an integer: unsigned integers wrap around 64 bits, doubles are cut toward zero (and those
  out of range or not a number give the least integer), booleans give `1` or `0`, and text is
  read with an optional base prefix, the empty text as zero;
* to a boolean: numbers are true when not zero, and text is read as a boolean, the empty text
  as false.

Every failed conversion is reported, in the order of the settings. Settings are valid when at
least one worker is asked for and the output format is `json` or `jsonl`.
-/

namespace WikiDump

/-- The settings of a run. -/
structure Settings where
  logLevel : String := "warn"
  logFormat : String := "text"
  workers : Int := 1
  outputFormat : String := "jsonl"
  pretty : Bool := false
  siteinfoPath : String := "siteinfo-namespaces.json"
  deriving Inhabited, Repr

namespace Settings

open Yaml

def unconvertible (name expected : String) (v : Setting) : String :=
  "'" ++ name ++ "' expected type '" ++ expected ++ "', got unconvertible type '" ++ v.typeName ++
    "', value: '" ++ v.text ++ "'"

def asText (name : String) : Setting → Except String String
  | .str s => .ok s
  | .bool b => .ok (if b then "1" else "0")
  | .int n => .ok (toString n)
  | .uint n => .ok (toString n)
  | .float x => .ok (Notation.positionalFloat x)
  | v => .error (unconvertible name "string" v)

/-- A double cut toward zero to a signed 64-bit integer; out of range or not a number, the
least integer. -/
def truncate (x : Float) : Int :=
  let least : Int := -9223372036854775808
  if x.isNaN ∨ x ≥ 9223372036854775808.0 ∨ x < -9223372036854775808.0 then least
  else if x < 0 then -((-x).floor.toUInt64.toNat : Int)
  else (x.floor.toUInt64.toNat : Int)

def asInt (name : String) : Setting → Except String Int
  | .int n => .ok n
  | .uint n => .ok (if n ≥ 9223372036854775808 then (n : Int) - 18446744073709551616 else n)
  | .float x => .ok (truncate x)
  | .bool b => .ok (if b then 1 else 0)
  | .str s =>
    match Numeral.readIntPrefixed (if s.isEmpty then "0" else s) 64 with
    | .ok n => .ok n
    | .error e => .error ("cannot parse '" ++ name ++ "' as int: " ++ e.message)
  | v => .error (unconvertible name "int" v)

def asBool (name : String) : Setting → Except String Bool
  | .bool b => .ok b
  | .int n => .ok (n != 0)
  | .uint n => .ok (n != 0)
  | .float x => .ok (x != 0)
  | .str s =>
    match Numeral.readBool s with
    | .ok b => .ok b
    | .error e =>
      if s.isEmpty then .ok false else .error ("cannot parse '" ++ name ++ "' as bool: " ++ e.message)
  | v => .error ("'" ++ name ++ "' expected type '%!s(bool=false)', got unconvertible type '" ++
      v.expression ++ "', value: '" ++ v.expression ++ "'")

/-- The entry of a table under a name: the exact name, else one equal to it without regard to
case. -/
def member (t : Table) (name : String) : Option Setting :=
  match t.lookup name with
  | some v => some v
  | none => (t.find? fun (k, _) => CaseMap.fold k == CaseMap.fold name).map (·.2)

def sectionOf (t : Table) (name : String) : Except String Table :=
  match member t name with
  | none | some .null => .ok []
  | some (.strMap entries) => .ok entries
  | some (.time _) => .ok []
  | some v => .error ("'" ++ name ++ "' expected a map, got '" ++ v.kindName ++ "'")

/-- Converts a setting of a section, keeping `empty` when the section does not hold it, and
adds a failure to `errors`. -/
def field (conv : String → Setting → Except String α) (entries : Table) (group key : String)
    (empty : α) (errors : List String) : α × List String :=
  match member entries key with
  | none | some .null => (empty, errors)
  | some v =>
    match conv (group ++ "." ++ key) v with
    | .ok x => (x, errors)
    | .error e => (empty, errors ++ [e])

def ofTree (t : Table) : Except (List String) Settings :=
  let part := fun (name : String) (errors : List String) =>
    match sectionOf t name with
    | .ok entries => (entries, errors)
    | .error e => ([], errors ++ [e])
  let (log, errs) := part "log" []
  let (logLevel, errs) := field asText log "log" "level" "" errs
  let (logFormat, errs) := field asText log "log" "format" "" errs
  let (scan, errs) := part "scan" errs
  let (workers, errs) := field asInt scan "scan" "workers" 0 errs
  let (output, errs) := part "output" errs
  let (outputFormat, errs) := field asText output "output" "format" "" errs
  let (pretty, errs) := field asBool output "output" "pretty" false errs
  let (siteinfo, errs) := part "siteinfo" errs
  let (siteinfoPath, errs) := field asText siteinfo "siteinfo" "path" "" errs
  if errs.isEmpty then .ok { logLevel, logFormat, workers, outputFormat, pretty, siteinfoPath }
  else .error errs

/-- Checks that no command would refuse the settings. -/
def validate (s : Settings) : Except String Settings :=
  if s.workers < 1 then .error ("scan.workers must be at least 1, got " ++ toString s.workers)
  else if s.outputFormat = "json" ∨ s.outputFormat = "jsonl" then .ok s
  else .error ("output.format must be json or jsonl, got " ++ Quoted.ofString s.outputFormat)

def configOf (config : Option ByteArray) : Except String Table :=
  match config with
  | none => .ok []
  | some bytes =>
    match readMapping bytes with
    | .error e => .error ("read config: While parsing config: " ++ e.message)
    | .ok entries => .ok (lowerEntries (lowerTable entries))

/-- Loads the settings from the bytes of a configuration file, when one is given, and the
environment, and checks them. -/
def load (config : Option ByteArray) (env : List (String × String)) : Except String Settings := do
  let table ← configOf config
  match ofTree (tree table env) with
  | .error errs =>
    throw ("unmarshal config: decoding failed due to the following error(s):\n\n" ++
      "\n".intercalate errs)
  | .ok s => validate s

def environmentNames (config : Option ByteArray) : List String :=
  variablesFor ((configOf config).toOption.getD [])

end Settings

end WikiDump


import WikiDump.Number.Reading
import WikiDump.Text.Quoted
/-!
# Command-line flags

A flag has a long name, perhaps a one-letter short name, an initial value that also fixes the
kind of value it takes, and a line of usage. Text flags take any text; integer flags take a
number whose base its prefix chooses; boolean flags take one of the usual spellings of true and
false, and are set to true by their name alone; list flags collect every value given, in order.

A value that cannot be read is refused with the flag's display name (`-w, --workers`, or
`--batch` when there is no short name) and the reason.
-/

namespace WikiDump.Cli

/-- A flag's value. -/
inductive FlagValue where
  | text (s : String)
  | int (n : Int)
  | bool (b : Bool)
  /-- Every value given, in order. -/
  | texts (xs : List String)
  deriving Inhabited, BEq

/-- A flag of a command. -/
structure Flag where
  name : String
  short : Option Char := none
  /-- The value before the command line sets one. -/
  initial : FlagValue := .text ""
  usage : String
  /-- Whether a run needs the flag set on its command line. -/
  required : Bool := false
  deriving Inhabited

namespace Flag

def takesNoValue (f : Flag) : Bool :=
  match f.initial with
  | .bool _ => true
  | _ => false

def display (f : Flag) : String :=
  match f.short with
  | some c => "-" ++ c.toString ++ ", --" ++ f.name
  | none => "--" ++ f.name

def valueName (f : Flag) : String :=
  match f.initial with
  | .text _ => "string"
  | .int _ => "int"
  | .bool _ => ""
  | .texts _ => "stringArray"

def shownDefault (f : Flag) : Option String :=
  match f.initial with
  | .text s => if s.isEmpty then none else some (Quoted.ofString s)
  | .int n => if n == 0 then none else some (toString n)
  | .bool b => if b then some "true" else none
  | .texts xs => if xs.isEmpty then none else some ("[" ++ ",".intercalate xs ++ "]")

/-- Reads one value given for the flag; `previous` is what earlier values set, so that list
flags keep them. -/
def read (f : Flag) (previous : Option FlagValue) (s : String) : Except String FlagValue :=
  let invalid := fun (why : String) =>
    "invalid argument " ++ Quoted.ofString s ++ " for " ++ Quoted.ofString f.display ++ " flag: " ++ why
  match f.initial with
  | .text _ => .ok (.text s)
  | .int _ =>
    match Numeral.readIntPrefixed s 64 with
    | .ok n => .ok (.int n)
    | .error e => .error (invalid e.message)
  | .bool _ =>
    match Numeral.readBool s with
    | .ok b => .ok (.bool b)
    | .error e => .error (invalid e.message)
  | .texts _ =>
    match previous with
    | some (.texts xs) => .ok (.texts (xs ++ [s]))
    | _ => .ok (.texts [s])

end Flag

abbrev FlagSettings := List (String × FlagValue)

namespace FlagSettings

def put (fs : FlagSettings) (name : String) (v : FlagValue) : FlagSettings :=
  if fs.any (·.1 == name) then fs.map fun (n, w) => if n == name then (n, v) else (n, w)
  else fs ++ [(name, v)]

def isSet (fs : FlagSettings) (name : String) : Bool := fs.any (·.1 == name)

end FlagSettings

end WikiDump.Cli


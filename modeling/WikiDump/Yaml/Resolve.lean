import WikiDump.Yaml.Value
import WikiDump.Number.Reading
/-!
# Resolving scalars

A scalar's tag says what its text means. Tags are kept in short form: `tag:yaml.org,2002:int`
is `!!int`. A plain scalar without a tag gets the tag its text suggests, and so does a scalar
tagged with one of the tags read from text (`!!str`, `!!bool`, `!!int`, `!!float`, `!!null`,
`!!timestamp`), which must then agree with what the text suggests. Any other tag keeps the text
as a string.

The first character narrows the reading:

* the words `true`, `false`, `null`, `~`, the empty text, `.nan`, `.inf`, `+.inf` and `-.inf`
  (each in lower, capitalised or upper case) stand for their values;
* a text that starts with `.` and is not such a word may be a double;
* a text that starts with a digit or a sign may be a timestamp (only without a tag or with
  `!!timestamp`), an integer with an optional base prefix (`0x`, `0o`, `0b`, or a bare leading
  `0` for octal) and `_` between digits, an unsigned integer beyond the signed range, a double
  in decimal notation, or a `0b` or `0o` prefix followed by a signed number;
* anything else is a string.

A `!!float` tag accepts an integer, which becomes a double; any other disagreement between the
tag and the reading is refused.
-/

namespace WikiDump.Yaml

def longTagPrefix : String := "tag:yaml.org,2002:"

def shortTag (tag : String) : String :=
  if tag.startsWith longTagPrefix then "!!" ++ (tag.drop longTagPrefix.length).toString else tag

def isResolvable (tag : String) : Bool :=
  ["", "!!str", "!!bool", "!!int", "!!float", "!!null", "!!timestamp"].contains tag

/-- How the first character narrows the reading of a text: `'N'` for the empty text, `'M'` for
a letter of one of the words, `'.'`, `'D'` for a digit, `'S'` for a sign, none for the rest. -/
def hint (text : String) : Option Char :=
  match text.toList with
  | [] => some 'N'
  | c :: _ =>
    if "yYnNtTfFoO~".contains c then some 'M'
    else if c = '.' then some '.'
    else if '0' ≤ c ∧ c ≤ '9' then some 'D'
    else if c = '+' ∨ c = '-' then some 'S'
    else none

def word? (text : String) : Option (String × Value) :=
  if ["true", "True", "TRUE"].contains text then some ("!!bool", .bool true)
  else if ["false", "False", "FALSE"].contains text then some ("!!bool", .bool false)
  else if ["", "~", "null", "Null", "NULL"].contains text then some ("!!null", .null)
  else if [".nan", ".NaN", ".NAN"].contains text then some ("!!float", .float (0.0 / 0.0))
  else if [".inf", ".Inf", ".INF", "+.inf", "+.Inf", "+.INF"].contains text then
    some ("!!float", .float (1.0 / 0.0))
  else if ["-.inf", "-.Inf", "-.INF"].contains text then some ("!!float", .float (-1.0 / 0.0))
  else none

def digitRun (cs : List Char) : List Char × List Char :=
  (cs.takeWhile fun c => '0' ≤ c ∧ c ≤ '9', cs.dropWhile fun c => '0' ≤ c ∧ c ≤ '9')

/-- Whether a text has the shape of a decimal double: an optional sign, digits with an optional
point and optional further digits or a point and digits, then an optional exponent. -/
def isFloatShaped (text : String) : Bool :=
  let cs := text.toList
  let cs := match cs with
    | c :: rest => if c = '+' ∨ c = '-' then rest else cs
    | [] => []
  let mantissa : Option (List Char) :=
    match cs with
    | '.' :: rest =>
      let (ds, after) := digitRun rest
      if ds.isEmpty then none else some after
    | _ =>
      let (ds, after) := digitRun cs
      if ds.isEmpty then none
      else
        match after with
        | '.' :: more => some (digitRun more).2
        | _ => some after
  match mantissa with
  | none => false
  | some [] => true
  | some (e :: rest) =>
    if e = 'e' ∨ e = 'E' then
      let rest := match rest with
        | c :: more => if c = '+' ∨ c = '-' then more else rest
        | [] => []
      let (ds, after) := digitRun rest
      !ds.isEmpty && after.isEmpty
    else false

def integerValue (signed : Except NumeralError Int) (unsigned : Except NumeralError Nat) :
    Option Value :=
  match signed, unsigned with
  | .ok n, _ => some (.int n)
  | _, .ok n => some (.uint n)
  | _, _ => none

def numeric (tag text : String) : String × Value :=
  let stamp := if tag = "" ∨ tag = "!!timestamp" then Timestamp.parse? text else none
  match stamp with
  | some t => ("!!timestamp", .time t)
  | none =>
    let plain := text.replace "_" ""
    match integerValue (Numeral.readIntPrefixed plain 64) (Numeral.readUintPrefixed plain 64) with
    | some v => ("!!int", v)
    | none =>
      let asFloat : Option Float :=
        if isFloatShaped plain then (Numeral.readFloat plain).toOption else none
      match asFloat with
      | some x => ("!!float", .float x)
      | none =>
        let prefixed (base : Nat) (mark : String) : Option Value :=
          if plain.startsWith ("0" ++ mark) then
            let rest := (plain.drop 2).toString
            integerValue (Numeral.readIntIn base rest 64) (Numeral.readUintIn base rest 64)
          else if plain.startsWith ("-0" ++ mark) then
            ((Numeral.readIntIn base ("-" ++ (plain.drop 3).toString) 64).toOption.map .int)
          else none
        match prefixed 2 "b" <|> prefixed 8 "o" with
        | some v => ("!!int", v)
        | none => ("!!str", .str text)

def suggest (tag text : String) : String × Value :=
  match hint text with
  | none => ("!!str", .str text)
  | some h =>
    if tag = "!!str" ∨ tag = "!!binary" then ("!!str", .str text)
    else
      match word? text with
      | some r => r
      | none =>
        if h = '.' then
          match Numeral.readFloat text with
          | .ok x => ("!!float", .float x)
          | .error _ => ("!!str", .str text)
        else if h = 'D' ∨ h = 'S' then numeric tag text
        else ("!!str", .str text)

/-- Resolves a scalar with a tag in short form: the tag it ends up with and its value, or why
the tag and the text disagree. -/
def resolve (tag text : String) : Except String (String × Value) :=
  if !isResolvable tag then .ok (tag, .str text)
  else
    let (found, value) := suggest tag text
    if tag = "" ∨ tag = found ∨ tag = "!!str" ∨ tag = "!!binary" then .ok (found, value)
    else
      match tag, found, value with
      | "!!float", "!!int", .int n => .ok ("!!float", .float (Float.ofInt n))
      | _, _, _ =>
        .error ("cannot decode " ++ found ++ " \x60" ++ text ++ "\x60 as a " ++ tag)

def plainTag (text : String) : String := (suggest "" text).1

end WikiDump.Yaml


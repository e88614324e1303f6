import WikiDump.Yaml.Timestamp
import WikiDump.Number.Notation
/-!
# Values

A YAML document read without a schema becomes a value: null, a boolean, a signed integer of 64
bits, an unsigned integer above the signed range, a double, a string, a timestamp, a sequence,
or a mapping. A mapping whose keys are all strings is a string mapping; any other is a general
mapping whose keys are values themselves.

Values are shown in three ways, and messages quote them in all three:

* as text (`[a b]`, `map[a:1]`, `<nil>`), with mapping entries sorted by key;
* as an expression (`[]interface {}{"a", 1}`, `map[string]interface {}{"a":1}`), with strings
  quoted, unsigned integers in hexadecimal and timestamps as the call that builds them;
* as a key text, when a general mapping becomes a string mapping: strings as they are, numbers
  in positional notation, null as the empty string, and collections as the empty string too.

Two keys are the same when they have the same type and equal values; doubles compare as
numbers, so not-a-number never matches, and timestamps in a fixed zone never match another,
since each carries a zone of its own.
-/

namespace WikiDump.Yaml

/-- A value read from a YAML document. -/
inductive Value where
  | null
  | bool (b : Bool)
  | int (n : Int)
  | uint (n : Nat)
  | float (x : Float)
  | str (s : String)
  | time (t : Timestamp)
  | seq (items : List Value)
  | strMap (entries : List (String × Value))
  | anyMap (entries : List (Value × Value))
  deriving Inhabited

namespace Value

def typeName : Value → String
  | .null => "<nil>"
  | .bool _ => "bool"
  | .int _ => "int"
  | .uint _ => "uint64"
  | .float _ => "float64"
  | .str _ => "string"
  | .time _ => "time.Time"
  | .seq _ => "[]interface \x7b\x7d"
  | .strMap _ => "map[string]interface \x7b\x7d"
  | .anyMap _ => "map[interface \x7b\x7d]interface \x7b\x7d"

def kindName : Value → String
  | .null => "invalid"
  | .time _ => "struct"
  | .seq _ => "slice"
  | .strMap _ | .anyMap _ => "map"
  | v => v.typeName

def isCollection : Value → Bool
  | .seq _ | .strMap _ | .anyMap _ => true
  | _ => false

def same : Value → Value → Bool
  | .null, .null => true
  | .bool a, .bool b => a == b
  | .int a, .int b => a == b
  | .uint a, .uint b => a == b
  | .float a, .float b => a == b
  | .str a, .str b => a == b
  | .time a, .time b => !(a.zone matches .fixed _) && a == b
  | _, _ => false

def rank : Value → Nat
  | .null => 0
  | .bool _ => 1
  | .int _ => 2
  | .uint _ => 3
  | .float _ => 4
  | .str _ => 5
  | .time _ => 6
  | _ => 7

def keyBefore (a b : Value) : Bool :=
  if rank a ≠ rank b then rank a < rank b
  else
    match a, b with
    | .bool x, .bool y => !x || y
    | .int x, .int y => x ≤ y
    | .uint x, .uint y => x ≤ y
    | .float x, .float y => x.isNaN || x ≤ y
    | .str x, .str y => decide (x ≤ y)
    | _, _ => true

def keyText : Value → String
  | .null => ""
  | .bool b => if b then "true" else "false"
  | .int n => toString n
  | .uint n => toString n
  | .float x => Notation.positionalFloat x
  | .str s => s
  | .time t => t.text
  | _ => ""

def sortedText (sep : String) (entries : List (String × String)) : String :=
  sep.intercalate ((entries.mergeSort fun a b => decide (a.1 ≤ b.1)).map (·.2))

def sortedByKey (sep : String) (entries : List (Value × String)) : String :=
  sep.intercalate ((entries.mergeSort fun a b => keyBefore a.1 b.1).map (·.2))

mutual

def text : Value → String
  | .null => "<nil>"
  | .bool b => if b then "true" else "false"
  | .int n => toString n
  | .uint n => toString n
  | .float x => Notation.ofFloat x
  | .str s => s
  | .time t => t.text
  | .seq items => "[" ++ " ".intercalate (textItems items) ++ "]"
  | .strMap entries => "map[" ++ sortedText " " (textEntries entries) ++ "]"
  | .anyMap entries => "map[" ++ sortedByKey " " (textPairs entries) ++ "]"

def textItems : List Value → List String
  | [] => []
  | v :: rest => text v :: textItems rest

/-- The texts of string mapping entries, each as its key and `:` and its value, with its key
for sorting. -/
def textEntries : List (String × Value) → List (String × String)
  | [] => []
  | (k, v) :: rest => (k, k ++ ":" ++ text v) :: textEntries rest

def textPairs : List (Value × Value) → List (Value × String)
  | [] => []
  | (k, v) :: rest => (k, text k ++ ":" ++ text v) :: textPairs rest

end

mutual

def expression : Value → String
  | .null => "interface \x7b\x7d(nil)"
  | .bool b => if b then "true" else "false"
  | .int n => toString n
  | .uint n => "0x" ++ String.ofList (Nat.toDigits 16 n)
  | .float x => Notation.ofFloat x
  | .str s => Quoted.ofString s
  | .time t => t.expression
  | .seq items => "[]interface \x7b\x7d\x7b" ++ ", ".intercalate (expressionItems items) ++ "\x7d"
  | .strMap entries =>
    "map[string]interface \x7b\x7d\x7b" ++ sortedText ", " (expressionEntries entries) ++ "\x7d"
  | .anyMap entries =>
    "map[interface \x7b\x7d]interface \x7b\x7d\x7b" ++ sortedByKey ", " (expressionPairs entries) ++
      "\x7d"

def expressionItems : List Value → List String
  | [] => []
  | v :: rest => expression v :: expressionItems rest

def expressionEntries : List (String × Value) → List (String × String)
  | [] => []
  | (k, v) :: rest => (k, Quoted.ofString k ++ ":" ++ expression v) :: expressionEntries rest

def expressionPairs : List (Value × Value) → List (Value × String)
  | [] => []
  | (k, v) :: rest => (k, expression k ++ ":" ++ expression v) :: expressionPairs rest

end

end Value

end WikiDump.Yaml


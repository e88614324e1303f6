import WikiDump.Text.Quoted
/-!
# JSON documents

A JSON document keeps the order of its object members as they were built, and a number keeps
the text it is written with, so that integers of any size and shortest float texts pass through
unchanged.

Strings are written with the escapes of web-safe JSON: `"` and `\` take a backslash; line feed,
carriage return, tab, backspace and form feed their letter escapes; other control characters,
`<`, `>`, `&`, `U+2028` and `U+2029` are written `\u00XX` or `\u20XX`. Compact output has no
blanks; indented output puts each member and element on its own line.
-/

namespace WikiDump

/-- A JSON document. -/
inductive Json where
  | null
  | bool (b : Bool)
  /-- A number, as the text it is written with. -/
  | number (text : String)
  | string (s : String)
  | array (items : List Json)
  | object (members : List (String × Json))
  deriving Inhabited, Repr, BEq

namespace Json

def int (n : Int) : Json := .number (toString n)

def nat (n : Nat) : Json := .number (toString n)

def escapeChar (c : Char) : String :=
  if c = '"' then "\\\""
  else if c = '\\' then "\\\\"
  else if c = '\n' then "\\n"
  else if c = '\r' then "\\r"
  else if c = '\t' then "\\t"
  else if c = '\x08' then "\\b"
  else if c = '\x0c' then "\\f"
  else if c.toNat < 0x20 ∨ c = '<' ∨ c = '>' ∨ c = '&' ∨ c.toNat = 0x2028 ∨ c.toNat = 0x2029 then
    "\\u" ++ Quoted.hexPadded 4 c.toNat
  else c.toString

def quote (s : String) : String :=
  s.foldl (fun acc c => acc ++ escapeChar c) "\"" ++ "\""

mutual

/-- The compact text of a document. -/
def render : Json → String
  | .null => "null"
  | .bool b => if b then "true" else "false"
  | .number text => text
  | .string s => quote s
  | .array items => "[" ++ renderItems items ++ "]"
  | .object members => "\x7b" ++ renderMembers members ++ "\x7d"

def renderItems : List Json → String
  | [] => ""
  | [j] => render j
  | j :: rest => render j ++ "," ++ renderItems rest

def renderMembers : List (String × Json) → String
  | [] => ""
  | [(k, v)] => quote k ++ ":" ++ render v
  | (k, v) :: rest => quote k ++ ":" ++ render v ++ "," ++ renderMembers rest

end

def lineStart (pfx indent : String) (depth : Nat) : String :=
  "\n" ++ pfx ++ String.join (List.replicate depth indent)

mutual

/-- The indented text of a document at nesting `depth`, each level `indent` deeper and every
line after the first starting with `pfx`. Empty arrays and objects stay on one line. -/
def renderIndented (pfx indent : String) (depth : Nat) : Json → String
  | .array [] => "[]"
  | .object [] => "\x7b\x7d"
  | .array items =>
    "[" ++ renderItemsIndented pfx indent (depth + 1) items ++ lineStart pfx indent depth ++ "]"
  | .object members =>
    "\x7b" ++ renderMembersIndented pfx indent (depth + 1) members ++
      lineStart pfx indent depth ++ "\x7d"
  | .null => "null"
  | .bool b => if b then "true" else "false"
  | .number text => text
  | .string s => quote s

def renderItemsIndented (pfx indent : String) (depth : Nat) : List Json → String
  | [] => ""
  | [j] => lineStart pfx indent depth ++ renderIndented pfx indent depth j
  | j :: rest => lineStart pfx indent depth ++ renderIndented pfx indent depth j ++ "," ++
      renderItemsIndented pfx indent depth rest

def renderMembersIndented (pfx indent : String) (depth : Nat) : List (String × Json) → String
  | [] => ""
  | [(k, v)] => lineStart pfx indent depth ++ quote k ++ ": " ++ renderIndented pfx indent depth v
  | (k, v) :: rest => lineStart pfx indent depth ++ quote k ++ ": " ++
      renderIndented pfx indent depth v ++ "," ++ renderMembersIndented pfx indent depth rest

end

def field? (j : Json) (key : String) : Option Json :=
  match j with
  | .object members => (members.find? (·.1 == key)).map (·.2)
  | _ => none

end Json

end WikiDump


import WikiDump.Variant
import WikiDump.Text.Space
import WikiDump.Text.CaseMap
import WikiDump.Number.Reading
/-!
# Comparisons written as text

A comparison such as `page_len>1000` or `page_title = 'Main_Page'` names a field, an operator
and a value. The operators are looked for in the order `>= <= != ~= > < =`: the first operator
that occurs after the start of the text, with a non-blank field before its first occurrence
and a non-blank value after it, splits the text there. `~=` is read as `contains`, and a value
in matching single or double quotes loses its quotes.

A value given as text is typed: a numeral is a double, `true`, `false` and `null` (in any case)
are booleans and NULL, anything else stays text.
-/

namespace WikiDump

namespace Query

def operators : List String := [">=", "<=", "!=", "~=", ">", "<", "="]

/-- A comparison as written: field, operator and value text. -/
structure Comparison where
  field : String
  operator : String
  value : String
  deriving Repr, BEq, Inhabited

def findSub (pat : List Char) (cs : List Char) : Option Nat :=
  match pat with
  | [] => some 0
  | _ =>
    let rec go : List Char → Nat → Option Nat
      | [], _ => none
      | c :: rest, i => if (c :: rest).take pat.length = pat then some i else go rest (i + 1)
    go cs 0

def containsText (s pat : String) : Bool := (findSub pat.toList s.toList).isSome

def unquote (s : String) : String :=
  let cs := s.toList
  match cs, cs.getLast? with
  | q :: _ :: _, some l => if (q = '\'' ∨ q = '"') ∧ l = q then String.ofList (cs.drop 1).dropLast else s
  | _, _ => s

/-- Whether a text reads as a comparison rather than a path: it does not start with a dot and
holds an operator. -/
def isComparison (s : String) : Bool :=
  !s.startsWith "." && operators.any (containsText s)

def Comparison.parse? (s : String) : Option Comparison :=
  let cs := s.toList
  operators.findSome? fun op =>
    match findSub op.toList cs with
    | some i =>
      if i = 0 then none
      else
        let field := Space.trimChars (cs.take i)
        let value := Space.trimChars (cs.drop (i + op.length))
        if field.isEmpty ∨ value.isEmpty then none
        else some ⟨String.ofList field, (if op = "~=" then "contains" else op), unquote (String.ofList value)⟩
    | none => none

/-- The value a text stands for: a double if it is a numeral, a boolean or NULL if it spells
one, else the text. -/
def typedLiteral (s : String) : Variant :=
  match Numeral.readFloat s with
  | .ok x => .float x
  | .error _ =>
    let l := CaseMap.lowerText s
    if l = "true" then .bool true
    else if l = "false" then .bool false
    else if l = "null" then .null
    else .str s

end Query

end WikiDump


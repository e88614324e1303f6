import WikiDump.Query.Comparison
/-!
# Filters on records

A record is a map from column names to values. A path picks a value out of it: its parts,
separated by dots, are applied one after another.

* A part that reads as a comparison (`page_len>100`) keeps the map if the map passes that
  comparison, and fails otherwise.
* A part starting with `*` or `%` selects columns by name: all of them (`*` alone), or those
  whose name compares with the text after the operator (`*~=page_`, `*>=cl_t`); the rest of the
  path is applied to each, and the columns where it succeeds form a new map.
* Any other part is a column name.

A dot splits the path unless the segment after it holds an operator (so `page_len>1.5` keeps
its point), except right after a wildcard.

A filter compares the value at its path with its value. Equality compares numbers as numbers,
texts as texts, booleans as booleans, NULL only with NULL, and anything else by display text.
The order operators compare numbers, reading texts and other values as numerals where they
can. `contains` looks for the display text of the value inside the display text of the field.
A map that a wildcard produced passes when any of its values does.
-/

namespace WikiDump

namespace Query

/-- A condition on one field of a record. The operator is kept in lowercase. -/
structure Filter where
  field : String
  operator : String
  value : Variant
  deriving Inhabited

def Filter.make (field operator : String) (value : Variant) : Filter :=
  ⟨field, CaseMap.lowerText operator, value⟩

/-- `field op 'text'` for a text value, `field op value` otherwise. -/
def Filter.render (f : Filter) : String :=
  match f.value with
  | .str s => f.field ++ " " ++ f.operator ++ " '" ++ s ++ "'"
  | v => f.field ++ " " ++ f.operator ++ " " ++ v.displayText

def looseEqual (a b : Variant) : Bool :=
  if a.isNull || b.isNull then a.isNull && b.isNull
  else
    match a.number?, b.number? with
    | some x, some y => x == y
    | _, _ =>
      match a, b with
      | .str x, .str y => x == y
      | .bool x, .bool y => x == y
      | _, _ => a.display == b.display

def compareNumbers (rel : Float → Float → Bool) (a b : Variant) : Bool :=
  match a.asNumber?, b.asNumber? with
  | some x, some y => rel x y
  | _, _ => false

def occursIn (pat : List UInt8) : List UInt8 → Bool
  | [] => pat.isEmpty
  | b :: rest => decide ((b :: rest).take pat.length = pat) || occursIn pat rest

def containsValue (a b : Variant) : Bool :=
  if a.isNull then false else occursIn b.display a.display

def testScalar (operator : String) (value target : Variant) : Bool :=
  if operator = "=" ∨ operator = "==" then looseEqual value target
  else if operator = "!=" then !looseEqual value target
  else if operator = ">" then compareNumbers (fun x y => decide (x > y)) value target
  else if operator = ">=" then compareNumbers (fun x y => decide (x ≥ y)) value target
  else if operator = "<" then compareNumbers (fun x y => decide (x < y)) value target
  else if operator = "<=" then compareNumbers (fun x y => decide (x ≤ y)) value target
  else if operator = "contains" ∨ operator = "~=" then containsValue value target
  else false

mutual

def Filter.test (f : Filter) : Variant → Bool
  | .map entries => Filter.testAny f entries
  | v => testScalar f.operator v f.value

def Filter.testAny (f : Filter) : List (String × Variant) → Bool
  | [] => false
  | (_, v) :: rest => f.test v || Filter.testAny f rest

end

def pathParts (path : String) : List String :=
  let cs := match path.toList with
    | '.' :: rest => rest
    | cs => cs
  let rec go : List Char → List Char → List String → List String
    | [], current, parts => (String.ofList current.reverse :: parts).reverse
    | c :: rest, current, parts =>
      if c = '.' then
        let segment := String.ofList (rest.takeWhile (· ≠ '.'))
        let cur := String.ofList current.reverse
        let separates :=
          if operators.any (containsText segment) then cur = "*" ∨ cur = "%" else true
        if separates then go rest [] (cur :: parts) else go rest (c :: current) parts
      else go rest (c :: current) parts
  if cs.isEmpty then [] else (go cs [] []).filter (!·.isEmpty)

def wildcardKeeps (operator filterValue key : String) : Bool :=
  if operator = "*" then true
  else if operator = "=" then key == filterValue
  else if operator = "!=" then key != filterValue
  else if operator = "~=" then containsText key filterValue
  else if operator = ">" then filterValue < key
  else if operator = ">=" then !(key < filterValue)
  else if operator = "<" then key < filterValue
  else if operator = "<=" then !(filterValue < key)
  else false

/-- The operator and text of a wildcard part, or `none` when it has no operator after its
first character. -/
def wildcardTest (part : String) : Option (String × String) :=
  if part = "*" ∨ part = "%" then some ("*", "")
  else
    let rest := (part.toList.drop 1)
    operators.findSome? fun op =>
      if rest.take op.length = op.toList then some (op, unquote (String.ofList (rest.drop op.length)))
      else none

mutual

/-- Applies the parts of a path to a value. `fuel` bounds the nesting of path applications and
filter tests, each of which works on a shorter path than its caller. -/
def extractParts : Nat → Variant → List String → Except String Variant
  | 0, _, _ => .error "path too deep"
  | _ + 1, data, [] => .ok data
  | fuel + 1, data, part :: remaining =>
    match data with
    | .record entries => extractPart fuel entries part remaining
    | .map entries => extractPart fuel entries part remaining
    | v => .error ("cannot access '" ++ part ++ "' on type " ++ v.typeName)

def extractPart : Nat → List (String × Variant) → String → List String → Except String Variant
  | 0, _, _, _ => .error "path too deep"
  | fuel + 1, entries, part, remaining =>
    let wildcard := part.startsWith "*" || part.startsWith "%"
    let asComparison : Option Comparison :=
      if isComparison part && !wildcard then Comparison.parse? part else none
    match asComparison with
    | some cmp =>
      let f := Filter.make cmp.field cmp.operator (typedLiteral cmp.value)
      if filterPasses fuel f (.record entries) then extractParts fuel (.map entries) remaining
      else .error ("filter '" ++ part ++ "' did not match")
    | none =>
      if !wildcard then
        match entries.find? (·.1 == part) with
        | some (_, v) => extractParts fuel v remaining
        | none => .error ("column '" ++ part ++ "' not found")
      else
        match wildcardTest part with
        | none => .error ("invalid wildcard filter: " ++ part)
        | some (operator, filterValue) =>
          let kept := entries.filterMap fun (k, v) =>
            if wildcardKeeps operator filterValue k then
              match extractParts fuel v remaining with
              | .ok x => some (k, x)
              | .error _ => none
            else none
          if kept.isEmpty then .error ("no columns matched wildcard filter '" ++ part ++ "'")
          else .ok (.map kept)

def filterPasses : Nat → Filter → Variant → Bool
  | 0, _, _ => false
  | fuel + 1, f, record =>
    let result :=
      if f.field = "" ∨ f.field = "." then Except.ok record
      else extractParts fuel record (pathParts f.field)
    match result with
    | .ok v => f.test v
    | .error _ => false

end

def pathFuel (path : String) : Nat := 4 * path.length + 8

def extract (path : String) (record : Variant) : Except String Variant :=
  if path = "" ∨ path = "." then .ok record
  else extractParts (pathFuel path) record (pathParts path)

def Filter.passes (f : Filter) (record : Variant) : Bool :=
  filterPasses (pathFuel f.field + 1) f record

/-- A boolean combination of filters. -/
inductive Expression where
  | condition (f : Filter)
  | and (left right : Expression)
  | or (left right : Expression)
  deriving Inhabited

namespace Expression

def eval : Expression → Variant → Bool
  | .condition f, r => f.passes r
  | .and a b, r => a.eval r && b.eval r
  | .or a b, r => a.eval r || b.eval r

/-- The text of an expression: each AND and OR in parentheses. -/
def render : Expression → String
  | .condition f => f.render
  | .and a b => "(" ++ a.render ++ " AND " ++ b.render ++ ")"
  | .or a b => "(" ++ a.render ++ " OR " ++ b.render ++ ")"

end Expression

end Query

end WikiDump


import WikiDump.Yaml.Decode
import WikiDump.Text.CaseMap
/-!
# Layered settings

Settings are looked up by dotted keys (`log.level`) in three layers: the environment, the
configuration file and the defaults.

The configuration's keys are lowercased at every level, inside sequences too, and a general
mapping becomes a string mapping by writing its keys as text. When two keys of one mapping
lowercase alike, a key that was not lowercase already wins.

The known keys are the leaves of the configuration — values that are not mappings, null among
them — and the defaults whose section is not itself a leaf of the configuration.

A key is looked up in turn:

1. in the environment variable `DUMPSCAN_` and the key in upper case with `.` as `_`, when it
   is set and not empty; a variable set for an enclosing key hides the key;
2. in the configuration, where a part of the key may itself contain dots, and a sequence is
   entered by an item number; a null value counts as missing, and a value that is not a
   mapping on the way hides the key;
3. in the defaults.

The settings tree holds the value of every known key that has one, at its path.
-/

namespace WikiDump.Settings

open Yaml

abbrev Setting := Yaml.Value

abbrev Table := List (String × Setting)

def defaults : Table :=
  [("log", .strMap [("level", .str "warn"), ("format", .str "text")]),
    ("scan", .strMap [("workers", .int 1)]),
    ("output", .strMap [("format", .str "jsonl"), ("pretty", .bool false)]),
    ("siteinfo", .strMap [("path", .str "siteinfo-namespaces.json")])]

def isLower (s : String) : Bool := CaseMap.lowerText s == s

def Table.set (t : Table) (k : String) (v : Setting) : Table :=
  if t.any (·.1 == k) then t.map fun e => if e.1 == k then (k, v) else e else t ++ [(k, v)]

/-- The entries of a table with lowercase keys: those already lowercase first, so that the
others win. -/
def lowerEntries (entries : Table) : Table :=
  let fold := fun (t : Table) (e : String × Setting) => t.set (CaseMap.lowerText e.1) e.2
  let ordered := entries.filter (isLower ·.1) ++ entries.filter (!isLower ·.1)
  ordered.foldl fold []

mutual

/-- A value with the keys of its mappings lowercased and its general mappings made string
mappings. -/
def lowerKeys : Setting → Setting
  | .strMap entries => .strMap (lowerEntries (lowerTable entries))
  | .anyMap entries => .strMap (lowerEntries (lowerPairs entries))
  | .seq items => .seq (lowerItems items)
  | v => v

def lowerTable : Table → Table
  | [] => []
  | (k, v) :: rest => (k, lowerKeys v) :: lowerTable rest

def lowerPairs : List (Setting × Setting) → Table
  | [] => []
  | (k, v) :: rest => (k.keyText, lowerKeys v) :: lowerPairs rest

def lowerItems : List Setting → List Setting
  | [] => []
  | v :: rest => lowerKeys v :: lowerItems rest

end

/-- The leaves of a table under a prefix, added to `found` unless an enclosing key is a leaf
already. -/
def leaves (fuel : Nat) (t : Table) (pre : String) (found : List String) : List String :=
  match fuel with
  | 0 => found
  | fuel + 1 =>
    if pre ≠ "" ∧ found.contains pre then found
    else
      t.foldl (fun found (k, v) =>
        let key := if pre = "" then k else pre ++ "." ++ k
        match v with
        | .strMap entries => leaves fuel entries key found
        | _ => if found.contains (CaseMap.lowerText key) then found
          else found ++ [CaseMap.lowerText key]) found

mutual

def depth : Setting → Nat
  | .strMap entries => 1 + depthTable entries
  | .anyMap entries => 1 + depthPairs entries
  | .seq items => 1 + depthItems items
  | _ => 0

def depthTable : Table → Nat
  | [] => 0
  | (_, v) :: rest => max (depth v) (depthTable rest)

def depthPairs : List (Setting × Setting) → Nat
  | [] => 0
  | (_, v) :: rest => max (depth v) (depthPairs rest)

def depthItems : List Setting → Nat
  | [] => 0
  | v :: rest => max (depth v) (depthItems rest)

end

def knownKeys (config : Table) : List String :=
  let fuel := depth (.strMap config) + 2
  leaves fuel defaults "" (leaves fuel config "" [])

def variableOf (key : String) : String :=
  CaseMap.upperText ("DUMPSCAN_" ++ key) |>.map fun c => if c = '.' then '_' else c

def envValue (env : List (String × String)) (name : String) : Option String :=
  match env.lookup name with
  | some v => if v.isEmpty then none else some v
  | none => none

def searchTable (t : Table) : List String → Option Setting
  | [] => some (.strMap t)
  | [k] =>
    match t.lookup k with
    | some .null => none
    | other => other
  | k :: rest =>
    match t.lookup k with
    | some (.strMap inner) => searchTable inner rest
    | _ => none

/-- Whether an enclosing key of a path has a value that is not a mapping; an enclosing key with
no value ends the check. -/
def shadowedPrefix (t : Table) (path : List String) : Bool :=
  let rec go : List Nat → Bool
    | [] => false
    | i :: rest =>
      match searchTable t (path.take i) with
      | none => false
      | some (.strMap _) => go rest
      | some _ => true
  go ((List.range (path.length - 1)).map (· + 1))

/-- The value at a path where any part may hold dots: the longest joined prefix that names an
entry is tried first, entering mappings and, by item number, sequences. -/
def searchPrefixes (fuel : Nat) (source : Setting) (path : List String) : Option Setting :=
  match fuel with
  | 0 => none
  | fuel + 1 =>
    if path.isEmpty then some source
    else
      let tryAt := fun (i : Nat) =>
        let key := CaseMap.lowerText (".".intercalate (path.take i))
        let next : Option Setting :=
          match source with
          | .strMap entries => entries.lookup key
          | .seq items =>
            match (Numeral.readInt key 64).toOption with
            | some n => if n ≥ 0 ∧ n.toNat < items.length then items[n.toNat]? else none
            | none => none
          | _ => none
        match next with
        | none => none
        | some v =>
          if i = path.length then (if v matches .null then none else some v)
          else
            match v with
            | .strMap _ | .seq _ => searchPrefixes fuel v (path.drop i)
            | _ => none
      ((List.range path.length).reverse.map (· + 1)).findSome? tryAt

def lookupKey (config : Table) (env : List (String × String)) (key : String) : Option Setting :=
  let path := key.splitOn "."
  let nested := path.length > 1
  match envValue env (variableOf key) with
  | some v => some (.str v)
  | none =>
    let prefixes := (List.range (path.length - 1)).map fun i => ".".intercalate (path.take (i + 1))
    if nested ∧ prefixes.any fun p => (envValue env (variableOf p)).isSome then none
    else
      match searchPrefixes (depth (.strMap config) + path.length + 2) (.strMap config) path with
      | some v => some v
      | none =>
        if nested ∧ shadowedPrefix config path then none
        else searchTable defaults path

/-- Sets a value at a path in a tree, making mappings of the parts on the way and replacing
values that are not mappings. -/
def setPath (t : Table) : List String → Setting → Table
  | [], _ => t
  | [k], v => t.set k v
  | k :: rest, v =>
    let inner := match t.lookup k with
      | some (.strMap entries) => entries
      | _ => []
    t.set k (.strMap (setPath inner rest v))

def tree (config : Table) (env : List (String × String)) : Table :=
  let keys := (knownKeys config).mergeSort fun a b => decide (a ≤ b)
  keys.foldl (fun t key =>
    match lookupKey config env key with
    | some v =>
      let path := key.splitOn "."
      setPath t (path.dropLast ++ [CaseMap.lowerText (path.getLast?.getD "")]) v
    | none => t) []

/-- The environment variables that can matter for a configuration: those of its known keys and
of every key enclosing one. -/
def variablesFor (config : Table) : List String :=
  ((knownKeys config).flatMap fun key =>
    let path := key.splitOn "."
    (List.range path.length).map fun i => variableOf (".".intercalate (path.take (i + 1)))).eraseDups

end WikiDump.Settings


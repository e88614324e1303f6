import WikiDump.Json.Reader
import WikiDump.Field.Datum
/-!
# Namespace names of a wiki

A wiki publishes its namespaces as the JSON answer of a siteinfo query: an object whose member
`query` holds an object whose member `namespaces` maps keys to entries, each with a numeric
`id`, a local name under `*` and a `canonical` name. Member names match without regard to case,
unknown members are ignored, and `null` leaves a member as it was, except that a `null` map of
namespaces is no map at all.

A member of the wrong JSON kind is a mismatch. Reading goes on after a mismatch and the first
one is reported, naming where it was met (`query.namespaces.<key>.id`) and the type expected
there. An `id` must be an integer that fits 32 bits. Text that is not JSON is refused before any
mismatch; an answer without a map of namespaces is refused last.

A title reads under a namespace as the namespace's local name, a colon and the title with its
underscores made blanks; a namespace without a local name adds no prefix.
-/

namespace WikiDump

namespace Site

/-- A namespace: its number and its local and canonical names. -/
structure Namespace where
  id : Int
  name : String
  canonical : String
  deriving Inhabited, BEq

/-- The namespaces of a wiki, in increasing order of their numbers. -/
structure NamespaceMap where
  namespaces : List Namespace
  deriving Inhabited

/-- Why a siteinfo answer was refused. -/
inductive SiteError where
  /-- The text is not JSON. -/
  | malformed (e : Json.ReadError)
  /-- A member of the wrong kind: what was found, where (empty for the whole answer), and the
  type expected there. -/
  | mismatch (found : String) (path : List String) (expected : String)
  /-- A namespace entry that is not an object: what was found and the entry's key. Its place is
  a map entry, not a struct field, and the message says so by naming the place alone. -/
  | entryMismatch (found : String) (key : String)
  /-- The answer has no map of namespaces. -/
  | missing
  deriving Inhabited

def SiteError.message : SiteError → String
  | .malformed e => e.message
  | .mismatch found [] expected =>
    "json: cannot unmarshal " ++ found ++ " into Go value of type " ++ expected
  | .mismatch found path expected =>
    "json: cannot unmarshal " ++ found ++ " into Go struct field response." ++ ".".intercalate path ++
      " of type " ++ expected
  | .entryMismatch found key =>
    "json: cannot unmarshal " ++ found ++ " into response.query.namespaces." ++ key ++
      " of type siteinfo.namespaceInfo"
  | .missing => "missing query.namespaces"

def kindName : Json → String
  | .null => "null"
  | .bool _ => "bool"
  | .number _ => "number"
  | .string _ => "string"
  | .array _ => "array"
  | .object _ => "object"

def matchesField (member field : String) : Bool := CaseInsensitive.equal member field

def firstOf (a b : Option SiteError) : Option SiteError :=
  match a with
  | some e => some e
  | none => b

def readText (path : List String) (current : String) : Json → String × Option SiteError
  | .null => (current, none)
  | .string s => (s, none)
  | j => (current, some (.mismatch (kindName j) path "string"))

def readId (path : List String) (current : Int) : Json → Int × Option SiteError
  | .null => (current, none)
  | .number t =>
    match Numeral.readInt t 64 with
    | .ok n => if -(Nat.pow 2 31) ≤ n ∧ n < Nat.pow 2 31 then (n, none)
      else (current, some (.mismatch ("number " ++ t) path "int32"))
    | .error _ => (current, some (.mismatch ("number " ++ t) path "int32"))
  | j => (current, some (.mismatch (kindName j) path "int32"))

def readEntryMember (path : List String) (acc : Namespace × Option SiteError) (member : String × Json) :
    Namespace × Option SiteError :=
  let (ns, err) := acc
  let (k, v) := member
  if matchesField k "id" then
    let (id, e) := readId (path ++ ["id"]) ns.id v
    ({ ns with id }, firstOf err e)
  else if matchesField k "*" then
    let (name, e) := readText (path ++ ["*"]) ns.name v
    ({ ns with name }, firstOf err e)
  else if matchesField k "canonical" then
    let (canonical, e) := readText (path ++ ["canonical"]) ns.canonical v
    ({ ns with canonical }, firstOf err e)
  else (ns, err)

def readEntry (key : String) : Json → Namespace × Option SiteError
  | .null => (⟨0, "", ""⟩, none)
  | .object ms => ms.foldl (readEntryMember ["query", "namespaces", key]) (⟨0, "", ""⟩, none)
  | j => (⟨0, "", ""⟩, some (.entryMismatch (kindName j) key))

def setEntry (key : String) (ns : Namespace) : List (String × Namespace) → List (String × Namespace)
  | [] => [(key, ns)]
  | (k, n) :: rest => if k = key then (key, ns) :: rest else (k, n) :: setEntry key ns rest

/-- Where reading stands: the map of namespaces (none while there is no map) and the first
mismatch. -/
abbrev Reading := Option (List (String × Namespace)) × Option SiteError

def readNamespaces (acc : Reading) : Json → Reading
  | .null => (none, acc.2)
  | .object ms =>
    ms.foldl (fun (map, err) (k, v) =>
      let (ns, e) := readEntry k v
      (some (setEntry k ns (map.getD [])), firstOf err e)) (some (acc.1.getD []), acc.2)
  | j => (acc.1, firstOf acc.2 (some (.mismatch (kindName j) ["query", "namespaces"]
      "map[string]siteinfo.namespaceInfo")))

def queryType : String :=
  "struct \x7b Namespaces map[string]siteinfo.namespaceInfo \"json:\\\"namespaces\\\"\" \x7d"

def readQuery (acc : Reading) : Json → Reading
  | .null => acc
  | .object ms =>
    ms.foldl (fun acc (k, v) => if matchesField k "namespaces" then readNamespaces acc v else acc) acc
  | j => (acc.1, firstOf acc.2 (some (.mismatch (kindName j) ["query"] queryType)))

def readAnswer : Json → Reading
  | .null => (none, none)
  | .object ms => ms.foldl (fun acc (k, v) => if matchesField k "query" then readQuery acc v else acc) (none, none)
  | j => (none, some (.mismatch (kindName j) [] "siteinfo.response"))

def insertById (ns : Namespace) : List Namespace → List Namespace
  | [] => [ns]
  | n :: rest => if ns.id < n.id then ns :: n :: rest else n :: insertById ns rest

def NamespaceMap.parse (data : ByteArray) : Except SiteError NamespaceMap :=
  match Json.read data with
  | .error e => .error (.malformed e)
  | .ok j =>
    match readAnswer j with
    | (_, some e) => .error e
    | (none, none) => .error .missing
    | (some entries, none) => .ok ⟨entries.foldl (fun acc (_, ns) => insertById ns acc) []⟩

namespace NamespaceMap

def lookup (m : NamespaceMap) (id : Int) : Option Namespace := m.namespaces.find? (·.id == id)

/-- A title as read under a namespace: the local name and a colon, unless the name is empty,
then the title with underscores made blanks; `none` for a namespace the wiki does not have. -/
def readableTitle (m : NamespaceMap) (id : Int) (title : String) : Option String :=
  (m.lookup id).map fun ns =>
    if ns.name.isEmpty then Title.readable title else ns.name ++ ":" ++ Title.readable title

end NamespaceMap

def unknownNamespace (id : Int) : String := "unknown namespace: " ++ toString id

end Site

end WikiDump


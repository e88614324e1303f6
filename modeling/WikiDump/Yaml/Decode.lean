import WikiDump.Yaml.Compose
import WikiDump.Text.Utf8
/-!
# Decoding documents

A document is decoded into a string mapping, the way a configuration file is read. Each node
is decoded into what its place asks for:

* anything, for values, for the keys of a general mapping and for the items of a sequence: a
  scalar becomes its resolved value, a sequence a list, and a mapping a string mapping when
  every key is tagged `!!str` or `!!merge`, else a general mapping;
* a string, for the keys of a string mapping: a scalar gives its text (null gives nothing, and
  the key is dropped), and a collection is a type error;
* the mapping being filled, for the root and for what is merged into a mapping.

Type errors are collected and reported together, each with the line of its node. Two keys of
one mapping written alike — same kind of node, same text — are an error at the later one, and
the mapping is then not decoded. Other problems stop decoding at once: a scalar whose tag and
text disagree, a `!!binary` scalar that is not base64, a sequence or mapping used as a general
mapping key, a merge of something other than mappings, an alias met again while it is being
decoded, and documents where aliases account for nearly all the decoding.

The key `<<` merges mappings into the mapping that holds it: a mapping, an alias to one, or a
sequence of those, the earlier ones first. A merged key never replaces a key the mapping sets
itself or one merged before it; keys are compared as the values they read as.
-/

namespace WikiDump.Yaml

/-- Where a node is decoded. -/
inductive Out where
  /-- Any value. -/
  | any
  /-- A string. -/
  | text
  /-- The mapping being filled: a string or a general mapping. -/
  | into (table : Value)
  deriving Inhabited

def Out.typeName : Out → String
  | .any => "interface \x7b\x7d"
  | .text => "string"
  | .into table => table.typeName

/-- The state of decoding. -/
structure Decoder where
  doc : Document
  /-- Type errors so far. -/
  errors : Array String := #[]
  /-- Nodes decoded, and those of them decoded through an alias. -/
  decodes : Nat := 0
  aliased : Nat := 0
  /-- Aliases being decoded. -/
  following : List Nat := []
  /-- Keys a merge may no longer set, while a merge is going on. -/
  merged : Option (List Value) := none

abbrev Decode := StateT Decoder (Except String)

namespace Decode

def nodeAt (id : Nat) : Decode Node := do return (← get).doc.nodes.getD id default

def tagOf (n : Node) : Decode String :=
  if n.kind = .alias then do return (← nodeAt n.target).tag else pure n.tag

def isMerge (n : Node) : Bool := n.kind = .scalar ∧ n.value = "<<" ∧ n.tag = "!!merge"

/-- The share of decoding that may come through aliases, falling from 99% to 10% as a
document grows from 400 000 to 4 000 000 decoded nodes. -/
def allowedAliasRatio (decodes : Nat) : Float :=
  if decodes ≤ 400000 then 0.99
  else if decodes ≥ 4000000 then 0.10
  else 0.99 - 0.89 * ((decodes - 400000).toFloat / 3600000.0)

/-- Counts a node being decoded, refusing documents that are mostly aliases. -/
def count : Decode Unit := do
  let d ← get
  let decodes := d.decodes + 1
  let aliased := if d.following.isEmpty then d.aliased else d.aliased + 1
  set { d with decodes, aliased }
  if aliased > 100 ∧ decodes > 1000 ∧
      aliased.toFloat / decodes.toFloat > allowedAliasRatio decodes then
    throw "document contains excessive aliasing"

def typeError (n : Node) (tag : String) (out : Out) : Decode Unit := do
  let tag := if n.tag ≠ "" then n.tag else tag
  let bytes := n.value.toUTF8
  let shown :=
    if tag = "!!seq" ∨ tag = "!!map" then ""
    else if bytes.size > 10 then " \x60" ++ Utf8.decodeLossy (bytes.extract 0 7) ++ "...\x60"
    else " \x60" ++ n.value ++ "\x60"
  modify fun d => { d with errors := d.errors.push ("line " ++ toString n.line ++
    ": cannot unmarshal " ++ shortTag tag ++ shown ++ " into " ++ out.typeName) }

/-- Records an error for each key written like an earlier one, pair by pair from the earliest;
whether there was none. -/
def uniqueKeys (keys : List Node) : Decode Bool := do
  let mut found := false
  let mut rest := keys
  for ni in keys do
    rest := rest.drop 1
    for nj in rest do
      if ni.kind = nj.kind ∧ ni.value = nj.value then
        found := true
        modify fun d => { d with errors := d.errors.push ("line " ++ toString nj.line ++
          ": mapping key " ++ Quoted.ofString nj.value ++ " already defined at line " ++
          toString ni.line) }
  return !found

def base64Digit? (c : Char) : Option Nat :=
  if 'A' ≤ c ∧ c ≤ 'Z' then some (c.toNat - 65)
  else if 'a' ≤ c ∧ c ≤ 'z' then some (c.toNat - 97 + 26)
  else if '0' ≤ c ∧ c ≤ '9' then some (c.toNat - 48 + 52)
  else if c = '+' then some 62
  else if c = '/' then some 63
  else none

def base64Groups : List Char → ByteArray → Option ByteArray
  | [], acc => some acc
  | [a, b, '=', '='], acc => do
    let x ← base64Digit? a
    let y ← base64Digit? b
    pure (acc.push (UInt8.ofNat ((x <<< 2) + (y >>> 4))))
  | [a, b, c, '='], acc => do
    let x ← base64Digit? a
    let y ← base64Digit? b
    let z ← base64Digit? c
    pure ((acc.push (UInt8.ofNat ((x <<< 2) + (y >>> 4)))).push
      (UInt8.ofNat (((y &&& 15) <<< 4) + (z >>> 2))))
  | a :: b :: c :: e :: rest, acc => do
    let x ← base64Digit? a
    let y ← base64Digit? b
    let z ← base64Digit? c
    let w ← base64Digit? e
    base64Groups rest (((acc.push (UInt8.ofNat ((x <<< 2) + (y >>> 4)))).push
      (UInt8.ofNat (((y &&& 15) <<< 4) + (z >>> 2)))).push (UInt8.ofNat (((z &&& 3) <<< 6) + w)))
  | _, _ => none

def binaryText (s : String) : Decode String :=
  match base64Groups (s.toList.filter fun c => c ≠ '\r' ∧ c ≠ '\n') .empty with
  | some bytes => pure (Utf8.decodeLossy bytes)
  | none => throw "!!binary value contains invalid base64 data"

def scalarValue (n : Node) : Decode (String × Value) := do
  if n.tag = "!!str" then return ("!!str", .str n.value)
  match resolve n.tag n.value with
  | .error e => throw e
  | .ok (tag, value) =>
    if tag = "!!binary" then return (tag, .str (← binaryText n.value))
    return (tag, value)

def scalar (n : Node) (out : Out) : Decode (Option Value) := do
  let (tag, value) ← scalarValue n
  match value, out with
  | .null, .text => return none
  | .null, .into t => return some t
  | .null, .any => return some .null
  | _, .any => return some value
  | .str s, .text => return some (.str (if tag = "!!binary" then s else n.value))
  | _, .text => return some (.str n.value)
  | _, .into t =>
    typeError n tag out
    return some t

/-- Sets a key of a mapping, replacing the value of a key that is the same. -/
def insert (table k v : Value) : Value :=
  match table, k with
  | .strMap es, .str s =>
    if es.any (·.1 == s) then .strMap (es.map fun e => if e.1 == s then (s, v) else e)
    else .strMap (es ++ [(s, v)])
  | .anyMap es, _ =>
    if es.any (Value.same ·.1 k) then .anyMap (es.map fun e => if Value.same e.1 k then (k, v) else e)
    else .anyMap (es ++ [(k, v)])
  | _, _ => table

def wantMap : String := "map merge requires map or sequence of maps as the value"

def pairs : List Nat → List (Nat × Nat)
  | k :: v :: rest => (k, v) :: pairs rest
  | _ => []

mutual

/-- Decodes a node into a place: the value it gives, none when it gives nothing, or for a
mapping being filled the mapping afterwards. -/
def node : Nat → Nat → Out → Decode (Option Value)
  | 0, _, _ => throw "document nests too deeply"
  | fuel + 1, id, out => do
    count
    let n ← nodeAt id
    match n.kind with
    | .alias =>
      if (← get).following.contains id then
        throw ("anchor '" ++ n.value ++ "' value contains itself")
      modify fun d => { d with following := id :: d.following }
      let result ← node fuel n.target out
      modify fun d => { d with following := d.following.erase id }
      return result
    | .scalar => scalar n out
    | .sequence =>
      match out with
      | .any => return some (.seq (← items fuel n.children.toList []))
      | .text =>
        typeError n "!!seq" out
        return none
      | .into t =>
        typeError n "!!seq" out
        return some t
    | .mapping =>
      let keys ← (pairs n.children.toList).mapM fun (k, _) => nodeAt k
      if !(← uniqueKeys keys) then
        return (match out with | .into t => some t | _ => none)
      match out with
      | .any =>
        let keyTags ← keys.mapM tagOf
        let fresh := if keyTags.all (fun t => t = "!!str" ∨ t = "!!merge") then Value.strMap []
          else Value.anyMap []
        return some (← fill fuel n (pairs n.children.toList) none fresh)
      | .text =>
        typeError n "!!map" out
        return none
      | .into t => return some (← fill fuel n (pairs n.children.toList) none t)

def items : Nat → List Nat → List Value → Decode (List Value)
  | 0, _, _ => throw "document nests too deeply"
  | _, [], acc => return acc.reverse
  | fuel + 1, id :: rest, acc => do
    match ← node fuel id .any with
    | some v => items fuel rest (v :: acc)
    | none => items fuel rest acc

/-- Fills a mapping with the pairs of a mapping node, then merges what its last `<<` key
names. The merged keys in force when the filling starts are set aside while the pairs are
decoded and checked against as keys are set. -/
def fill : Nat → Node → List (Nat × Nat) → Option Nat → Value → Decode Value
  | 0, _, _, _, _ => throw "document nests too deeply"
  | fuel + 1, parent, [], mergeNode, table => do
    match mergeNode with
    | none => return table
    | some m => merge fuel parent m table
  | fuel + 1, parent, (k, v) :: rest, mergeNode, table => do
    let kn ← nodeAt k
    if isMerge kn then return ← fill fuel parent rest (some v) table
    let mut merged := (← get).merged
    modify fun d => { d with merged := none }
    let keyOut := match table with
      | .strMap _ => Out.text
      | _ => Out.any
    let mut table := table
    match ← node fuel k keyOut with
    | none => pure ()
    | some key =>
      let fresh := match merged with
        | some seen => !seen.any (Value.same key)
        | none => true
      if fresh then
        merged := merged.map (key :: ·)
        if key.isCollection then throw ("invalid map key: " ++ key.expression)
        match ← node fuel v .any with
        | some value => table := insert table key value
        | none => pure ()
    modify fun d => { d with merged := merged }
    fill fuel parent rest mergeNode table

/-- Merges the mappings a `<<` value names into a mapping. The first merge into a mapping first
sets aside the keys the mapping itself has. -/
def merge : Nat → Node → Nat → Value → Decode Value
  | 0, _, _, _ => throw "document nests too deeply"
  | fuel + 1, parent, m, table => do
    let entry := (← get).merged
    if entry.isNone then
      modify fun d => { d with merged := some [] }
      let _ ← keysOf fuel (pairs parent.children.toList)
    let mn ← nodeAt m
    let table ← match mn.kind with
      | .mapping => do pure ((← node fuel m (.into table)).getD table)
      | .alias => do
        if (← nodeAt mn.target).kind ≠ .mapping then throw wantMap
        pure ((← node fuel m (.into table)).getD table)
      | .sequence => mergeEach fuel mn.children.toList table
      | .scalar => throw wantMap
    if entry.isNone then modify fun d => { d with merged := none }
    return table

def keysOf : Nat → List (Nat × Nat) → Decode Unit
  | 0, _ => throw "document nests too deeply"
  | _, [] => pure ()
  | fuel + 1, (k, _) :: rest => do
    match ← node fuel k .any with
    | some key => modify fun d => { d with merged := d.merged.map (key :: ·) }
    | none => pure ()
    keysOf fuel rest

def mergeEach : Nat → List Nat → Value → Decode Value
  | 0, _, _ => throw "document nests too deeply"
  | _, [], table => pure table
  | fuel + 1, id :: rest, table => do
    let n ← nodeAt id
    let isMap ←
      if n.kind = .alias then do pure ((← nodeAt n.target).kind == .mapping)
      else pure (n.kind == .mapping)
    if !isMap then throw wantMap
    let table := (← node fuel id (.into table)).getD table
    mergeEach fuel rest table

end

end Decode

/-- The string mapping the first document of a stream gives, as a configuration is read: empty
when there is no document or it is null. -/
def readMapping (bytes : ByteArray) : Except YamlError (List (String × Value)) := do
  match ← Document.read bytes with
  | none => return []
  | some doc =>
    let fuel := (doc.nodes.size + 2) * (doc.nodes.size + 2)
    let run := (do Decode.count; Decode.node fuel doc.root (.into (.strMap []))).run { doc }
    match run with
    | .error problem => throw ⟨0, problem⟩
    | .ok (result, d) =>
      if !d.errors.isEmpty then
        throw ⟨0, "unmarshal errors:\n  " ++ "\n  ".intercalate d.errors.toList⟩
      match result with
      | some (.strMap entries) => return entries
      | _ => return []

end WikiDump.Yaml


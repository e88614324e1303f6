import WikiDump.Yaml.Parser
import WikiDump.Yaml.Resolve
/-!
# Composing documents

The events of the first document of a stream are composed into a graph of nodes: scalars,
sequences, mappings and aliases. Nodes are numbered in the order they start, and a collection
lists its children by number, so an alias can stand for a node that is still open — one of its
own ancestors — and the graph may have cycles.

Each node keeps its tag in short form. A node without a tag gets the tag of its kind: `!!seq`,
`!!map`, `!!str` for a quoted or block scalar, `!!merge` for the plain scalar `<<`, and for any
other plain scalar the tag its text suggests. The lone `!` tag counts as no tag.

An anchor names its node from the moment the node starts; a later node with the same anchor
takes the name over. An alias to a name no node has taken is refused.
-/

namespace WikiDump.Yaml

/-- What a node is. -/
inductive NodeKind where
  | scalar
  | sequence
  | mapping
  | alias
  deriving Inhabited, Repr, BEq, DecidableEq

/-- A node of a document. -/
structure Node where
  kind : NodeKind
  /-- The tag in short form; empty for an alias. -/
  tag : String
  /-- The text of a scalar, or the anchor an alias names. -/
  value : String := ""
  /-- The line and column where the node starts, from one. -/
  line : Nat
  column : Nat
  /-- The items of a sequence, or the keys and values of a mapping in turn. -/
  children : Array Nat := #[]
  /-- The node an alias stands for. -/
  target : Nat := 0
  deriving Inhabited, Repr

/-- A document: its nodes and the number of its root. -/
structure Document where
  nodes : Array Node
  root : Nat
  deriving Inhabited, Repr

/-- The state of composing: the parser, the nodes so far and the anchors taken, the latest
first. -/
structure Composer where
  parser : Parser
  nodes : Array Node := #[]
  anchors : List (String × Nat) := []

abbrev Compose := StateT Composer (Except YamlError)

namespace Compose

/-- The next event. -/
def next : Compose Event := do
  let c ← get
  match c.parser.next with
  | .ok (e, p) =>
    set { c with parser := p }
    return e
  | .error err => throw err

def add (n : Node) : Compose Nat := do
  let c ← get
  set { c with nodes := c.nodes.push n }
  return c.nodes.size

def anchor (name : Option String) (id : Nat) : Compose Unit :=
  match name with
  | some a => modify fun c => { c with anchors := (a, id) :: c.anchors }
  | none => pure ()

def setChildren (id : Nat) (children : Array Nat) : Compose Unit :=
  modify fun c => { c with nodes := c.nodes.modify id fun n => { n with children } }

def fail (problem : String) : Compose α := throw ⟨0, problem⟩

def tagOr (tag default : String) : String :=
  if tag = "" ∨ tag = "!" then default else shortTag tag

mutual

def node : Nat → Event → Compose Nat
  | 0, _ => fail "document nests too deeply"
  | fuel + 1, e => do
    let line := e.start.line + 1
    let column := e.start.column + 1
    match e.kind with
    | .scalar a tag text style =>
      let default :=
        if style ≠ .plain then "!!str"
        else if text = "<<" then "!!merge"
        else plainTag text
      let id ← add { kind := .scalar, tag := tagOr tag default, value := text, line, column }
      anchor a id
      return id
    | .alias name =>
      match (← get).anchors.lookup name with
      | none => fail ("unknown anchor '" ++ name ++ "' referenced")
      | some target => add { kind := .alias, tag := "", value := name, line, column, target }
    | .sequenceStart a tag =>
      let id ← add { kind := .sequence, tag := tagOr tag "!!seq", line, column }
      anchor a id
      let children ← items fuel #[]
      setChildren id children
      return id
    | .mappingStart a tag =>
      let id ← add { kind := .mapping, tag := tagOr tag "!!map", line, column }
      anchor a id
      let children ← items fuel #[]
      setChildren id children
      return id
    | _ => fail "unexpected event"

def items : Nat → Array Nat → Compose (Array Nat)
  | 0, _ => fail "document nests too deeply"
  | fuel + 1, acc => do
    let e ← next
    match e.kind with
    | .sequenceEnd | .mappingEnd => return acc
    | _ =>
      let id ← node fuel e
      items fuel (acc.push id)

end

def document (fuel : Nat) : Compose (Option Nat) := do
  let _ ← next
  let e ← next
  match e.kind with
  | .documentStart =>
    let root ← node fuel (← next)
    let _ ← next
    return some root
  | _ => return none

end Compose

/-- The first document of a stream of bytes; none for a stream without documents. An empty
stream reads as a single line break. -/
def Document.read (bytes : ByteArray) : Except YamlError (Option Document) := do
  let bytes := if bytes.isEmpty then "\n".toUTF8 else bytes
  let chars ← decodeInput bytes
  let fuel := 4 * chars.size + 16
  let (root, c) ← (Compose.document fuel).run { parser := Parser.ofChars chars }
  return root.map fun r => { nodes := c.nodes, root := r }

end WikiDump.Yaml


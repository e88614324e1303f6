import WikiDump.Query.Token
import WikiDump.Number.Reading
/-!
# Grammars and their parser

A grammar is a set of named rules whose bodies are built from literals, token kinds, rule
references, sequences, alternatives, optional and repeated parts, and captures that file what
they match under a field name. One engine runs any grammar over a token array and returns the
captures of the root rule as a tree of items.

The engine backtracks with bounded lookahead:

* a sequence fails to match when its first part does not match; a later part that does not
  match is an error, "unexpected token", which names what the rest of the sequence expected;
* an alternative tries its choices in order on a copy of the state; the first match wins; a
  choice that fails with an error after reading more tokens than the lookahead allows ends the
  whole alternative with that error, otherwise the next choice is tried, and the error of the
  choice that got furthest is kept in case none matches;
* an optional or repeated part that fails with an error within the lookahead counts as absent;
* the deepest error seen anywhere is remembered: when the root rule stops short of the end, the
  deepest error is reported if it lies beyond the stopping point, else the unexpected token.

When a rule matches, the tokens captured into its numeric fields are read as numbers; a numeral
that cannot be read fails the rule at the place where the blanks before it began.
-/

namespace WikiDump

namespace Query

/-- A part of a grammar rule. -/
inductive Node where
  /-- A token with this text; a keyword token matches its keyword in any case. -/
  | literal (text : String)
  /-- Any token of a kind. -/
  | token (kind : TokenKind)
  /-- Another rule, by name. -/
  | rule (name : String)
  | seq (nodes : List Node)
  | alt (nodes : List Node)
  | optional (node : Node)
  | many (node : Node)
  /-- What `node` matches, filed under `field` of the enclosing rule. -/
  | capture (field : String) (node : Node)
  deriving Repr, Inhabited

mutual

def Node.ebnf : Node → String
  | .literal text => Quoted.ofString text
  | .token kind => "<" ++ kind.name ++ ">"
  | .rule name => name
  | .seq nodes => if nodes.length = 1 then Node.ebnfList " " nodes else "(" ++ Node.ebnfList " " nodes ++ ")"
  | .alt nodes => "(" ++ Node.ebnfList " | " nodes ++ ")"
  | .optional node => node.ebnf ++ "?"
  | .many node => node.ebnf ++ "*"
  | .capture _ node => node.ebnf

def Node.ebnfList (sep : String) : List Node → String
  | [] => ""
  | [n] => n.ebnf
  | n :: ns => n.ebnf ++ sep ++ Node.ebnfList sep ns

end

/-- A named rule of a grammar. -/
structure Rule where
  name : String
  body : Node
  /-- Fields whose captured token must read as a double. -/
  floatFields : List String := []
  /-- Fields whose captured token must read as a 64-bit integer. -/
  intFields : List String := []
  deriving Inhabited

/-- A grammar: its rules and how many tokens a failing choice may read before its error is
final. -/
structure Grammar where
  rules : List Rule
  lookahead : Nat
  deriving Inhabited

/-- Why a query could not be parsed. -/
inductive ParseError where
  /-- A token where the grammar expected something else; `expected` may be empty. -/
  | unexpected (token : Token) (expected : String)
  /-- A captured numeral that could not be read as its field's number. -/
  | conform (pos : Position) (error : NumeralError)
  /-- Text that could not be cut into tokens. -/
  | lexical (pos : Position) (message : String)
  deriving Repr, Inhabited

def ParseError.message : ParseError → String
  | .unexpected t expected =>
    t.pos.render ++ ": unexpected token " ++ Quoted.ofString t.shown ++
      (if expected.isEmpty then "" else " (expected " ++ expected ++ ")")
  | .conform pos e => pos.render ++ ": failed to conform: " ++ e.message
  | .lexical pos m => pos.render ++ ": lexer: " ++ m

/-- What a match produced: tokens, captures, and matched rules with their captures. -/
inductive Item where
  | token (t : Token)
  | captured (field : String) (items : List Item)
  | node (rule : String) (fields : List Item)
  deriving Repr, Inhabited

def Item.isCapture : Item → Bool
  | .captured .. => true
  | _ => false

mutual

def Item.weight : Item → Nat
  | .token _ => 1
  | .captured _ items => Item.weightList items + 1
  | .node _ fields => Item.weightList fields + 1

def Item.weightList : List Item → Nat
  | [] => 0
  | i :: is => i.weight + Item.weightList is

end

def Item.filed (caps : List Item) (field : String) : List Item :=
  caps.flatMap fun item =>
    match item with
    | .captured f items => if f = field then items else []
    | _ => []

def Item.captures : Item → List Item
  | .node _ fields => fields
  | _ => []

def Item.firstToken? (items : List Item) : Option Token :=
  items.findSome? fun item =>
    match item with
    | .token t => some t
    | _ => none

/-- The state of a parse: the index of the next token and the deepest error seen, with the
index at which it arose. -/
structure Cursor where
  pos : Nat
  deepest : Option ParseError := none
  depth : Nat := 0
  deriving Inhabited

abbrev Outcome := Except ParseError (Option (List Item))

namespace Cursor

/-- Takes over a branch that was chosen: its position, and its deepest error if that is at
least as deep. -/
def accept (c branch : Cursor) : Cursor :=
  if branch.depth ≥ c.depth then { c with pos := branch.pos, deepest := branch.deepest, depth := branch.depth }
  else { c with pos := branch.pos }

def note (c : Cursor) (e : ParseError) : Cursor :=
  if c.pos ≥ c.depth then { c with deepest := some e, depth := c.pos } else c

/-- Records what a failed branch learned, and whether its error ends the parse because the
branch read more than `lookahead` tokens; when it does, the branch is taken over. -/
def stop (c : Cursor) (e : ParseError) (branch : Cursor) (lookahead : Nat) : Cursor × Bool :=
  let c :=
    if branch.depth > c.depth then { c with deepest := branch.deepest, depth := branch.depth }
    else if branch.pos ≥ c.depth then { c with deepest := some e, depth := max branch.pos branch.depth }
    else c
  if branch.pos > c.pos + lookahead then (c.accept branch, true) else (c, false)

/-- The error to report when parsing stops at this position with `e`: the deepest error if it
lies further on. -/
def deepestOr (c : Cursor) (e : ParseError) : ParseError :=
  if c.pos ≥ c.depth then e else c.deepest.getD e

end Cursor

def tokenAt (toks : Array Token) (i : Nat) : Token :=
  match toks[i]? with
  | some t => t
  | none => toks.back?.getD default

def runSeq (p : Node → Cursor → Cursor × Outcome) (toks : Array Token) :
    Bool → List Node → Cursor → Option (List Item) → Cursor × Outcome
  | _, [], c, out => (c, .ok out)
  | first, n :: ns, c, out =>
    match p n c with
    | (c', .error e) => (c', .error e)
    | (c', .ok none) =>
      if first then (c', .ok none)
      else (c', .error (.unexpected (tokenAt toks c'.pos) (Node.ebnfList " " (n :: ns))))
    | (c', .ok (some items)) => runSeq p toks false ns c' (some (out.getD [] ++ items))

/-- Tries the choices of an alternative in order with `p`; `reached` and `firstError` are the
furthest position and error of the choices that failed so far. -/
def runAlt (p : Node → Cursor → Cursor × Outcome) (lookahead : Nat) :
    List Node → Cursor → Nat → Option ParseError → Cursor × Outcome
  | [], c, _, firstError =>
    match firstError with
    | some e => (c.note e, .error e)
    | none => (c, .ok none)
  | n :: ns, c, reached, firstError =>
    match p n c with
    | (branch, .error e) =>
      let (c', stopped) := c.stop e branch lookahead
      if stopped then (c', .error e)
      else if branch.pos ≥ reached then runAlt p lookahead ns c' branch.pos (some e)
      else runAlt p lookahead ns c' reached firstError
    | (_, .ok none) => runAlt p lookahead ns c reached firstError
    | (branch, .ok (some items)) => (c.accept branch, .ok (some items))

/-- Matches `node` repeatedly with `p`, at most `remaining` more times; a repetition that fails
within the lookahead ends the repetitions. -/
def runRepeat (p : Node → Cursor → Cursor × Outcome) (lookahead : Nat) (node : Node) :
    Nat → Cursor → List Item → Cursor × Outcome
  | 0, c, out => (c, .ok (some out))
  | remaining + 1, c, out =>
    match p node c with
    | (branch, .error e) =>
      let (c', stopped) := c.stop e branch lookahead
      if stopped then (c', .error e) else (c', .ok (some out))
    | (branch, .ok none) => (c.accept branch, .ok (some out))
    | (branch, .ok (some items)) => runRepeat p lookahead node remaining (c.accept branch) (out ++ items)

def Token.matchesLiteral (t : Token) (text : String) : Bool :=
  t.kind != .eof && (t.text == text || (t.kind == .keyword && t.keyword == text))

def fieldTokens (caps : List Item) (field : String) : List Token :=
  caps.foldr (fun item acc =>
    match item with
    | .captured f items =>
      if f = field then
        (items.filterMap fun i => match i with
          | .token t => some t
          | _ => none) ++ acc
      else acc
    | _ => acc) []

def conformError (r : Rule) (caps : List Item) : Option ParseError :=
  let floats := r.floatFields.flatMap (fieldTokens caps)
  let ints := r.intFields.flatMap (fieldTokens caps)
  let floatErr := floats.findSome? fun t =>
    match Numeral.readFloat t.text with
    | .error e => some (ParseError.conform t.gapStart e)
    | .ok _ => none
  match floatErr with
  | some e => some e
  | none => ints.findSome? fun t =>
    match Numeral.readIntPrefixed t.text 64 with
    | .error e => some (ParseError.conform t.gapStart e)
    | .ok _ => none

namespace Grammar

def find? (g : Grammar) (name : String) : Option Rule := g.rules.find? (·.name == name)

/-- Matches `node` at the cursor. `fuel` bounds the nesting of matches; every cycle through
the rules reads a token, so a fuel of a multiple of the token count never runs out. -/
def parse (g : Grammar) (toks : Array Token) : Nat → Node → Cursor → Cursor × Outcome
  | 0, _, c => (c, .ok none)
  | fuel + 1, node, c =>
    match node with
    | .literal text =>
      let t := tokenAt toks c.pos
      if t.matchesLiteral text then ({ c with pos := c.pos + 1 }, .ok (some [.token t]))
      else (c, .ok none)
    | .token kind =>
      let t := tokenAt toks c.pos
      if t.kind == kind && kind != .eof then ({ c with pos := c.pos + 1 }, .ok (some [.token t]))
      else (c, .ok none)
    | .rule name =>
      match g.find? name with
      | none => (c, .ok none)
      | some r =>
        match parse g toks fuel r.body c with
        | (c', .error e) => (c'.note e, .error e)
        | (c', .ok none) => (c', .ok none)
        | (c', .ok (some items)) =>
          let caps := items.filter Item.isCapture
          match conformError r caps with
          | some e => (c', .error e)
          | none => (c', .ok (some [.node name caps]))
    | .seq nodes => runSeq (parse g toks fuel) toks true nodes c none
    | .alt nodes => runAlt (parse g toks fuel) g.lookahead nodes c 0 none
    | .optional n => runRepeat (parse g toks fuel) g.lookahead n 1 c []
    | .many n => runRepeat (parse g toks fuel) g.lookahead n (toks.size + 1) c []
    | .capture field n =>
      match parse g toks fuel n c with
      | (c', .error e) => (c', .error e)
      | (c', .ok none) => (c', .ok none)
      | (c', .ok (some items)) => (c', .ok (some [.captured field items]))

/-- Parses a whole token array as the rule `root`: the rule must match and be followed by the
end. -/
def run (g : Grammar) (root : String) (toks : Array Token) : Except ParseError Item :=
  let fuel := (toks.size + 1) * (g.rules.length + 1) * 16
  match g.parse toks fuel (.rule root) {pos := 0} with
  | (_, .error e) => .error e
  | (c, .ok (some [item])) =>
    let t := tokenAt toks c.pos
    if t.kind == .eof then .ok item else .error (c.deepestOr (.unexpected t ""))
  | (c, .ok _) => .error (c.deepestOr (.unexpected (tokenAt toks c.pos) ""))

end Grammar

end Query

end WikiDump


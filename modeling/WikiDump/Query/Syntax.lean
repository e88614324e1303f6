import WikiDump.Query.Grammar
import WikiDump.Query.Filter
import WikiDump.Number.Notation
/-!
# The syntax of SELECT queries

A query reads

    SELECT item, ... [FROM source] [WHERE expression] [GROUP BY path] [LIMIT number]

where an item is an expression with an optional `AS` alias, a source is a table name (bare or
quoted) or a parenthesised query, and an expression is a disjunction of conjunctions of
conditions. A condition is a parenthesised expression, or an operand with an optional
comparison to a second operand. An operand is a function call, a literal, a dotted path of
names and `*`, or a parenthesised query.

The grammar is data for the engine of `Grammar`; the tree of captures it returns is turned into
the typed syntax below. Each rule keeps the name under which it shows up in messages.
-/

namespace WikiDump

namespace Query

def selectGrammar : Grammar where
  lookahead := 2
  rules := [
    { name := "ASTSelect"
      body := .seq [.literal "SELECT", .capture "fields" (.rule "ASTSelectField"),
        .many (.seq [.literal ",", .capture "fields" (.rule "ASTSelectField")]),
        .optional (.seq [.literal "FROM", .capture "from" (.rule "ASTFromClause")]),
        .optional (.seq [.literal "WHERE", .capture "where" (.rule "ASTExpression")]),
        .optional (.seq [.literal "GROUP", .literal "BY", .capture "groupBy" (.rule "ASTValue")]),
        .optional (.seq [.literal "LIMIT", .capture "limit" (.token .number)])]
      intFields := ["limit"] },
    { name := "ASTSelectField"
      body := .seq [.capture "expr" (.rule "ASTExpression"),
        .optional (.seq [.literal "AS", .capture "alias" (.token .ident)])] },
    { name := "ASTFromClause"
      body := .alt [.alt [.capture "table" (.token .ident), .capture "table" (.token .string)],
        .seq [.literal "(", .capture "subquery" (.rule "ASTSelect"), .literal ")"]] },
    { name := "ASTExpression"
      body := .seq [.capture "or" (.rule "ASTOrCondition"),
        .many (.seq [.literal "OR", .capture "or" (.rule "ASTOrCondition")])] },
    { name := "ASTOrCondition"
      body := .seq [.capture "and" (.rule "ASTCondition"),
        .many (.seq [.literal "AND", .capture "and" (.rule "ASTCondition")])] },
    { name := "ASTCondition"
      body := .alt [.seq [.literal "(", .capture "grouped" (.rule "ASTExpression"), .literal ")"],
        .capture "simple" (.rule "ASTSimpleCondition")] },
    { name := "ASTSimpleCondition"
      body := .seq [.capture "operand" (.rule "ASTOperand"),
        .optional (.seq [
          .capture "op" (.alt ([ "=", "!=", ">", "<", ">=", "<=", "~=", "CONTAINS"].map .literal)),
          .capture "value" (.rule "ASTOperand")])] },
    { name := "ASTOperand"
      body := .alt [.capture "function" (.rule "ASTFunction"),
        .capture "literal" (.rule "ASTLiteral"), .capture "value" (.rule "ASTValue"),
        .seq [.literal "(", .capture "subquery" (.rule "ASTSelect"), .literal ")"]] },
    { name := "ASTFunction"
      body := .seq [.capture "name" (.token .ident), .literal "(",
        .capture "args" (.rule "ASTOperand"),
        .many (.seq [.literal ",", .capture "args" (.rule "ASTOperand")]), .literal ")"] },
    { name := "ASTValue"
      body := .seq [.alt [.capture "parts" (.token .ident), .capture "parts" (.literal "*")],
        .many (.seq [.literal ".",
          .alt [.capture "parts" (.token .ident), .capture "parts" (.literal "*")]])] },
    { name := "ASTLiteral"
      body := .alt [.capture "number" (.token .number), .capture "string" (.token .string),
        .capture "bool" (.alt [.literal "TRUE", .literal "FALSE"]), .capture "null" (.literal "NULL")]
      floatFields := ["number"] }]

/-- A literal operand. -/
inductive Literal where
  | number (value : Float)
  | string (text : String)
  /-- `TRUE` or `FALSE` as written, and which of the two it is. -/
  | bool (written : String) (value : Bool)
  | null
  deriving Inhabited

mutual

/-- An operand of a condition. -/
inductive Operand where
  | function (name : String) (args : List Operand)
  | literal (lit : Literal)
  | path (parts : List String)
  | subquery (query : SelectSyntax)

/-- A condition: a parenthesised expression, a bare operand, or an operand compared with
another. -/
inductive Condition where
  | grouped (expr : Disjunction)
  | bare (operand : Operand)
  | compare (operand : Operand) (operator : String) (value : Operand)

/-- Conditions joined by AND; there is at least one. -/
inductive Conjunction where
  | mk (first : Condition) (rest : List Condition)

/-- Conjunctions joined by OR: an expression; there is at least one. -/
inductive Disjunction where
  | mk (first : Conjunction) (rest : List Conjunction)

/-- A selected expression and its alias, empty when none was given. -/
inductive SelectItem where
  | mk (expr : Disjunction) (aliasName : String)

/-- Where a query reads its records from. -/
inductive Source where
  | table (name : String)
  | subquery (query : SelectSyntax)

/-- A SELECT query as written. -/
inductive SelectSyntax where
  | mk (items : List SelectItem) (source : Option Source) (filter : Option Disjunction)
      (groupBy : Option (List String)) (limit : Option Int)

end

instance : Inhabited Operand := ⟨.path []⟩

instance : Inhabited Condition := ⟨.bare default⟩

instance : Inhabited Conjunction := ⟨.mk default []⟩

instance : Inhabited Disjunction := ⟨.mk default []⟩

instance : Inhabited SelectSyntax := ⟨.mk [] none none none none⟩

namespace Literal

/-- The text of a literal: a number in general notation, a text in single quotes, a boolean in
lowercase, `NULL`. -/
def render : Literal → String
  | .number x => Notation.ofFloat x
  | .string s => "'" ++ s ++ "'"
  | .bool written _ => CaseMap.lowerText written
  | .null => "NULL"

def value : Literal → Variant
  | .number x => .float x
  | .string s => .str s
  | .bool _ b => .bool b
  | .null => .null

end Literal

/-- The text of an operand: a call with its arguments separated by commas, a literal, a dotted
path, or `(subquery)`. -/
def Operand.render : Operand → String
  | .function name args => name ++ "(" ++ ",".intercalate (args.attach.map fun ⟨a, _⟩ => a.render) ++ ")"
  | .literal lit => lit.render
  | .path parts => ".".intercalate parts
  | .subquery _ => "(subquery)"

namespace Operand

def unquoted : Operand → String
  | .literal (.string s) => s
  | o => o.render

/-- The value an operand stands for when it is compared with: a literal's value, else its
text. -/
def toValue : Operand → Variant
  | .literal lit => lit.value
  | o => .str o.render

def pathText : Operand → String
  | .path parts => ".".intercalate parts
  | _ => ""

end Operand

mutual

/-- The text of an expression: its conjunctions joined by ` OR `. -/
def Disjunction.render : Disjunction → String
  | .mk first rest => " OR ".intercalate (first.render :: Conjunction.renderList rest)

def Conjunction.renderList : List Conjunction → List String
  | [] => []
  | c :: cs => c.render :: Conjunction.renderList cs

/-- The text of a conjunction: its conditions joined by ` AND `. -/
def Conjunction.render : Conjunction → String
  | .mk first rest => " AND ".intercalate (first.renderWith :: Condition.renderList rest)

def Condition.renderList : List Condition → List String
  | [] => []
  | c :: cs => c.renderWith :: Condition.renderList cs

/-- The text of a condition: a grouped expression in parentheses, or the operator between its
operands with no blanks. -/
def Condition.renderWith : Condition → String
  | .grouped e => "(" ++ e.render ++ ")"
  | .bare o => o.render
  | .compare o op v => o.render ++ op ++ v.render

end

mutual

def Disjunction.toExpression : Disjunction → Expression
  | .mk first rest => Conjunction.joinOr first.toExpression rest

def Conjunction.joinOr : Expression → List Conjunction → Expression
  | acc, [] => acc
  | acc, c :: cs => Conjunction.joinOr (.or acc c.toExpression) cs

def Conjunction.toExpression : Conjunction → Expression
  | .mk first rest => Condition.joinAnd first.toExpression rest

def Condition.joinAnd : Expression → List Condition → Expression
  | acc, [] => acc
  | acc, c :: cs => Condition.joinAnd (.and acc c.toExpression) cs

def Condition.toExpression : Condition → Expression
  | .grouped e => e.toExpression
  | .bare o => .condition (Filter.make o.render "=" .null)
  | .compare o op v => .condition (Filter.make o.render op v.toValue)

end

namespace SelectItem

def expr : SelectItem → Disjunction
  | .mk e _ => e

def aliasName : SelectItem → String
  | .mk _ a => a

/-- The path and aggregate an item selects, read from its first condition: a call gives its
name as the aggregate and the path of its first argument, a path gives itself; anything else
gives neither. -/
def info (item : SelectItem) : String × String :=
  match item.expr with
  | .mk (.mk first _) _ =>
    let operand? : Option Operand := match first with
      | .grouped _ => none
      | .bare o => some o
      | .compare o _ _ => some o
    match operand? with
    | some (.function name args) => ((args.head?.map Operand.pathText).getD "", name)
    | some (.path parts) => (".".intercalate parts, "")
    | _ => ("", "")

end SelectItem

namespace SelectSyntax

def items : SelectSyntax → List SelectItem
  | .mk items _ _ _ _ => items

def source : SelectSyntax → Option Source
  | .mk _ source _ _ _ => source

/-- The WHERE expression, if any. -/
def filter : SelectSyntax → Option Disjunction
  | .mk _ _ filter _ _ => filter

def groupBy : SelectSyntax → Option (List String)
  | .mk _ _ _ groupBy _ => groupBy

def limit : SelectSyntax → Option Int
  | .mk _ _ _ _ limit => limit

end SelectSyntax

/-! ### From captures to syntax -/

def filedNodes (caps : List Item) (field : String) : List Item :=
  (Item.filed caps field).filter fun item =>
    match item with
    | .node .. => true
    | _ => false

def filedTexts (caps : List Item) (field : String) : List String :=
  (Item.filed caps field).filterMap fun item =>
    match item with
    | .token t => some t.text
    | _ => none

def Literal.ofCaptures (caps : List Item) : Literal :=
  match Item.firstToken? (Item.filed caps "number") with
  | some t => .number ((Numeral.readFloat t.text).toOption.getD 0)
  | none =>
    match Item.firstToken? (Item.filed caps "string") with
    | some t => .string t.text
    | none =>
      match Item.firstToken? (Item.filed caps "bool") with
      | some t => .bool t.text (t.keyword == "TRUE")
      | none => .null

def firstRest? : List α → Option (α × List α)
  | [] => none
  | a :: rest => some (a, rest)

mutual

def Operand.ofItem : Nat → Item → Operand
  | 0, _ => default
  | fuel + 1, item =>
    let caps := item.captures
    match (filedNodes caps "function").head? with
    | some f =>
      .function ((filedTexts f.captures "name").head?.getD "")
        ((filedNodes f.captures "args").map (Operand.ofItem fuel))
    | none =>
      match (filedNodes caps "literal").head? with
      | some l => .literal (Literal.ofCaptures l.captures)
      | none =>
        match (filedNodes caps "value").head? with
        | some v => .path (filedTexts v.captures "parts")
        | none =>
          match (filedNodes caps "subquery").head? with
          | some q => .subquery (SelectSyntax.ofItem fuel q)
          | none => default

def Condition.ofItem : Nat → Item → Condition
  | 0, _ => default
  | fuel + 1, item =>
    let caps := item.captures
    match (filedNodes caps "grouped").head? with
    | some g => .grouped (Disjunction.ofItem fuel g)
    | none =>
      match (filedNodes caps "simple").head? with
      | none => default
      | some s =>
        let operand := ((filedNodes s.captures "operand").head?.map (Operand.ofItem fuel)).getD default
        match Item.firstToken? (Item.filed s.captures "op"), (filedNodes s.captures "value").head? with
        | some op, some v => .compare operand op.text (Operand.ofItem fuel v)
        | _, _ => .bare operand

def Conjunction.ofItem : Nat → Item → Conjunction
  | 0, _ => default
  | fuel + 1, item =>
    match firstRest? ((filedNodes item.captures "and").map (Condition.ofItem fuel)) with
    | some (first, rest) => .mk first rest
    | none => default

def Disjunction.ofItem : Nat → Item → Disjunction
  | 0, _ => default
  | fuel + 1, item =>
    match firstRest? ((filedNodes item.captures "or").map (Conjunction.ofItem fuel)) with
    | some (first, rest) => .mk first rest
    | none => default

def SelectSyntax.ofItem : Nat → Item → SelectSyntax
  | 0, _ => default
  | fuel + 1, item =>
    let caps := item.captures
    let items := (filedNodes caps "fields").map fun f =>
      SelectItem.mk (((filedNodes f.captures "expr").head?.map (Disjunction.ofItem fuel)).getD default)
        ((filedTexts f.captures "alias").head?.getD "")
    let source := (filedNodes caps "from").head?.bind fun s =>
      match (filedTexts s.captures "table").head? with
      | some name => some (Source.table name)
      | none => (filedNodes s.captures "subquery").head?.map fun q => Source.subquery (SelectSyntax.ofItem fuel q)
    let filter := (filedNodes caps "where").head?.map (Disjunction.ofItem fuel)
    let groupBy := (filedNodes caps "groupBy").head?.map fun v => filedTexts v.captures "parts"
    let limit := (filedTexts caps "limit").head?.bind fun t => (Numeral.readIntPrefixed t 64).toOption
    .mk items source filter groupBy limit

end

/-- Parses a query into its syntax, without trimming it: the text is cut into tokens, the
tokens are matched by the grammar, and the match is read as syntax. -/
def SelectSyntax.parse (query : String) : Except ParseError SelectSyntax :=
  match tokens query with
  | .error e => .error (.lexical e.pos e.message)
  | .ok toks =>
    match selectGrammar.run "ASTSelect" toks with
    | .error e => .error e
    | .ok item => .ok (SelectSyntax.ofItem item.weight item)

end Query

end WikiDump


import WikiDump.Text.Quoted
/-!
# Query tokens

A query is cut into tokens by trying, at each position, these rules in order and taking the
first that matches there:

* a keyword (`SELECT FROM WHERE GROUP BY AS AND OR TRUE FALSE NULL CONTAINS LIMIT`), matched
  without regard to case where it starts and ends at a word boundary;
* an identifier, a letter or `_` followed by letters, digits and `_`;
* a number, an optional sign, digits, and an optional point with at least one digit after it
  (a point with no digit after it ends the number before the point);
* a string, in single or double quotes, with no quote of its kind inside;
* an operator, `>= <= != ~= ..` or one of `= < > ! ~`;
* a punctuation mark, one of `- + / * % , . ( )`;
* blanks (space, tab, line feed, form feed, carriage return), which are dropped.

Word characters are the ASCII letters, digits and `_`. A letter of a keyword also matches the
characters that fold to it (`ſ` for `s`). Positions count lines from one and characters
(not bytes) from one.

A string token holds its text without the quotes and with its escapes resolved: `\a \b \f \n
\r \t \v \\`, the quote of the string, three octal digits, `\x` with two, `\u` with four and
`\U` with eight hexadecimal digits. Any other escape makes the string invalid.
-/

namespace WikiDump

namespace Query

/-- The kinds of query token. -/
inductive TokenKind where
  | keyword
  | ident
  | number
  | string
  | operator
  | punct
  | eof
  deriving Repr, BEq, DecidableEq, Inhabited

def TokenKind.name : TokenKind → String
  | .keyword => "keyword"
  | .ident => "ident"
  | .number => "number"
  | .string => "string"
  | .operator => "operator"
  | .punct => "punct"
  | .eof => "eof"

/-- A place in the query text: line and column, both from one. -/
structure Position where
  line : Nat := 1
  column : Nat := 1
  deriving Repr, BEq, Inhabited

/-- `line:column`. -/
def Position.render (p : Position) : String := toString p.line ++ ":" ++ toString p.column

/-- The position after the characters `cs`: a line feed starts a new line, whose column then
counts the line feed itself. -/
def Position.advance (p : Position) (cs : List Char) : Position :=
  cs.foldl (fun q c => if c = '\n' then ⟨q.line + 1, 1⟩ else ⟨q.line, q.column + 1⟩) p

/-- A token: its kind, its text (a string's text unquoted), where it starts, and where the
blanks before it start (its own start when there are none). -/
structure Token where
  kind : TokenKind
  text : String
  pos : Position
  gapStart : Position
  /-- The keyword a keyword token spells, in capitals. -/
  keyword : String := ""
  deriving Repr, Inhabited

def Token.shown (t : Token) : String := if t.kind == .eof then "<EOF>" else t.text

/-- Why a query could not be cut into tokens. -/
structure LexError where
  pos : Position
  message : String
  deriving Repr, Inhabited

def keywords : List String :=
  ["SELECT", "FROM", "WHERE", "GROUP", "BY", "AS", "AND", "OR", "TRUE", "FALSE", "NULL",
    "CONTAINS", "LIMIT"]

def isWordChar (c : Char) : Bool := c.isAlphanum || c = '_'

def foldsTo (c k : Char) : Bool :=
  c = k || c = k.toLower || (k = 'S' && c = 'ſ') || (k = 'K' && c.toNat = 0x212A)

def keywordAt (cs : List Char) : Option (String × Nat) :=
  match cs with
  | [] => none
  | c :: _ =>
    if !isWordChar c then none
    else
      keywords.findSome? fun k =>
        let n := k.length
        let taken := cs.take n
        if taken.length = n ∧ (taken.zip k.toList).all (fun (x, y) => foldsTo x y) then
          let lastWord := match taken.getLast? with
            | some l => isWordChar l
            | none => false
          let nextWord := match cs[n]? with
            | some d => isWordChar d
            | none => false
          if lastWord != nextWord then some (k, n) else none
        else none

def identAt (cs : List Char) : Option Nat :=
  match cs with
  | c :: rest =>
    if (c.isAlpha || c = '_') then some (1 + (rest.takeWhile isWordChar).length) else none
  | [] => none

def numberAt (cs : List Char) : Option Nat :=
  let (sign, body) := match cs with
    | c :: rest => if c = '-' ∨ c = '+' then (1, rest) else (0, cs)
    | [] => (0, cs)
  let whole := (body.takeWhile Char.isDigit).length
  let afterWhole := body.drop whole
  match afterWhole with
  | '.' :: rest =>
    let fraction := (rest.takeWhile Char.isDigit).length
    if fraction > 0 then some (sign + whole + 1 + fraction)
    else if whole > 0 then some (sign + whole) else none
  | _ => if whole > 0 then some (sign + whole) else none

def stringAt (cs : List Char) : Option Nat :=
  match cs with
  | q :: rest =>
    if q = '\'' ∨ q = '"' then
      let inner := (rest.takeWhile (· ≠ q)).length
      if inner < rest.length then some (inner + 2) else none
    else none
  | [] => none

def operatorAt (cs : List Char) : Option Nat :=
  match cs with
  | a :: b :: _ =>
    if [">=", "<=", "!=", "~=", ".."].contains (String.ofList [a, b]) then some 2
    else if "=<>!~".contains a then some 1 else none
  | [a] => if "=<>!~".contains a then some 1 else none
  | [] => none

def punctAt (cs : List Char) : Option Nat :=
  match cs with
  | a :: _ => if "-+/*%,.()".contains a then some 1 else none
  | [] => none

def isBlank (c : Char) : Bool := c = ' ' || c = '\t' || c = '\n' || c = '\x0c' || c = '\r'

def hexValue? (c : Char) : Option Nat :=
  if c.isDigit then some (c.toNat - 48)
  else if 'a' ≤ c ∧ c ≤ 'f' then some (c.toNat - 87)
  else if 'A' ≤ c ∧ c ≤ 'F' then some (c.toNat - 55)
  else none

def hexDigits (n : Nat) (cs : List Char) : Option Nat :=
  let ds := cs.take n
  if ds.length < n then none
  else ds.foldl (fun acc c => acc.bind fun v => (hexValue? c).map (v * 16 + ·)) (some 0)

def unescape (quote : Char) : List Char → List Char → Option String
  | [], out => some (String.ofList out.reverse)
  | c :: rest, out =>
    if c = quote then none
    else if c ≠ '\\' then unescape quote rest (c :: out)
    else
      match rest with
      | [] => none
      | e :: tail =>
        let simple : Option Char :=
          if e = 'a' then some '\x07' else if e = 'b' then some '\x08'
          else if e = 'f' then some '\x0c' else if e = 'n' then some '\n'
          else if e = 'r' then some '\r' else if e = 't' then some '\t'
          else if e = 'v' then some '\x0b' else if e = '\\' then some '\\'
          else if (e = '\'' ∨ e = '"') ∧ e = quote then some e
          else none
        match simple with
        | some v => unescape quote tail (v :: out)
        | none =>
          let width := if e = 'x' then 2 else if e = 'u' then 4 else if e = 'U' then 8 else 0
          if width > 0 then
            match hexDigits width tail with
            | some v =>
              if e ≠ 'x' ∧ (v > 0x10FFFF ∨ (0xD800 ≤ v ∧ v < 0xE000)) then none
              else unescape quote (tail.drop width) (Char.ofNat v :: out)
            | none => none
          else if '0' ≤ e ∧ e ≤ '7' then
            match tail with
            | d1 :: d2 :: more =>
              if '0' ≤ d1 ∧ d1 ≤ '7' ∧ '0' ≤ d2 ∧ d2 ≤ '7' then
                let v := (e.toNat - 48) * 64 + (d1.toNat - 48) * 8 + (d2.toNat - 48)
                if v > 255 then none else unescape quote more (Char.ofNat v :: out)
              else none
            | _ => none
          else none
termination_by cs _ => cs.length
decreasing_by all_goals (simp_all; try omega)

def stringTokenText (raw : List Char) : Except String String :=
  match raw with
  | q :: rest =>
    match unescape q (rest.dropLast) [] with
    | some s => .ok s
    | none => .error ("invalid quoted string " ++ Quoted.ofString (String.ofList raw) ++ ": invalid syntax")
  | [] => .ok ""

def sample (cs : List Char) : String :=
  if cs.length > 16 then String.ofList (cs.take 16) ++ "..." else String.ofList cs

/-- Cuts the characters `cs`, which start at `pos`, into tokens; `gap` is where the blanks
before the next token started. The end is a token of kind `eof`. -/
def tokenize (cs : List Char) (pos gap : Position) (acc : Array Token) :
    Except LexError (Array Token) :=
  match cs with
  | [] => .ok (acc.push ⟨.eof, "", pos, gap, ""⟩)
  | c :: rest =>
    if isBlank c then
      let n := 1 + (rest.takeWhile isBlank).length
      tokenize ((c :: rest).drop n) (pos.advance ((c :: rest).take n)) gap acc
    else
      let found : Option (TokenKind × Nat × String) :=
        match keywordAt (c :: rest) with
        | some (k, n) => some (.keyword, n, k)
        | none =>
          match identAt (c :: rest) with
          | some n => some (.ident, n, "")
          | none =>
            match numberAt (c :: rest) with
            | some n => some (.number, n, "")
            | none =>
              match stringAt (c :: rest) with
              | some n => some (.string, n, "")
              | none =>
                match operatorAt (c :: rest) with
                | some n => some (.operator, n, "")
                | none => (punctAt (c :: rest)).map fun n => (.punct, n, "")
      match found with
      | none => .error ⟨pos, "invalid input text " ++ Quoted.ofString (sample (c :: rest))⟩
      | some (kind, n, keyword) =>
        let raw := (c :: rest).take n
        let next := pos.advance raw
        let text : Except String String :=
          if kind == .string then stringTokenText raw else .ok (String.ofList raw)
        match text with
        | .error m => .error ⟨pos, m⟩
        | .ok t =>
          if n = 0 then .ok acc
          else tokenize ((c :: rest).drop n) next next (acc.push ⟨kind, t, pos, gap, keyword⟩)
termination_by cs.length
decreasing_by all_goals (simp_all; try omega)

def tokens (query : String) : Except LexError (Array Token) :=
  tokenize query.toList {} {} #[]

end Query

end WikiDump


import WikiDump.Yaml.Input
/-!
# Scanning YAML

The scanner turns the characters of a stream into tokens: indicators (`-`, `?`, `:`, `,`,
brackets and braces), anchors, aliases, tags, scalars in their five styles, directives, document
markers, and the block structure that indentation implies (`BLOCK-SEQUENCE-START`,
`BLOCK-MAPPING-START` and `BLOCK-END`).

A plain or quoted scalar, an anchor, an alias, a tag or an opening bracket may turn out to be a
*simple key* once a `:` follows it on the same line within 1024 characters. The scanner keeps,
per flow level, the last place where a simple key may start; when the `:` comes, a `KEY` token
(and, in block context, a `BLOCK-MAPPING-START` when the key opens a deeper level) is inserted
before the token that started the key. A key that must be a key — a block-context candidate at
the column of the current indentation — and never sees its `:` is an error.

Tokens are produced on demand and kept in a queue. The queue is filled until it holds three
tokens and its first token is no longer a possible simple key, so a reader of the first token
always knows whether a `KEY` goes before it. Errors are reported when the scanner reaches them,
which may be a token or two beyond the one being read.

Comments are skipped. A comment after a token on the same line is read with that token, and a
run of comment lines is read as a whole; in both cases the blanks before a `#` may include tabs.

Positions are marks: characters read, line and column, all counted from zero. A scanner error
names the line of its context mark, or failing that of the position where it was found, both
counted from one; an error on the first line names no line.
-/

namespace WikiDump.Yaml

/-- A position in a stream: characters before it, its line and its column, from zero. -/
structure Mark where
  index : Nat := 0
  line : Nat := 0
  column : Nat := 0
  deriving Inhabited, Repr

/-- How a scalar was written. -/
inductive ScalarStyle where
  | plain
  | singleQuoted
  | doubleQuoted
  | literal
  | folded
  deriving Inhabited, Repr, BEq, DecidableEq

/-- The kinds of tokens. -/
inductive TokenKind where
  | streamStart
  | streamEnd
  /-- `%YAML major.minor` -/
  | versionDirective (major minor : Nat)
  /-- `%TAG handle expansion` -/
  | tagDirective (handle expansion : String)
  | documentStart
  | documentEnd
  | blockSequenceStart
  | blockMappingStart
  | blockEnd
  | flowSequenceStart
  | flowSequenceEnd
  | flowMappingStart
  | flowMappingEnd
  | blockEntry
  | flowEntry
  | key
  | value
  | alias (name : String)
  | anchor (name : String)
  /-- A tag: its handle (empty for a verbatim tag or the lone `!`) and its suffix. -/
  | tag (handle suffix : String)
  | scalar (text : String) (style : ScalarStyle)
  deriving Inhabited, Repr

/-- A token and where it starts and stops. -/
structure Token where
  kind : TokenKind
  start : Mark
  stop : Mark
  deriving Inhabited, Repr

/-- A place where a simple key may start, on one flow level. -/
structure SimpleKey where
  possible : Bool := false
  required : Bool := false
  /-- The number of the token that would follow the inserted `KEY`. -/
  tokenNumber : Nat := 0
  mark : Mark := {}
  deriving Inhabited

/-- The state of a scanner. -/
structure Scanner where
  text : Array Char
  pos : Nat := 0
  mark : Mark := {}
  started : Bool := false
  flowLevel : Nat := 0
  /-- Tokens produced and not yet read. -/
  queue : List Token := []
  /-- Tokens read so far. -/
  parsed : Nat := 0
  indent : Int := -1
  indents : List Int := []
  simpleKeyAllowed : Bool := false
  /-- The simple key candidates, the current flow level's first. -/
  keys : List SimpleKey := []
  /-- Line breaks read since the last character that is not blank. -/
  newlines : Nat := 0
  /-- Whether the queue is ready for reading its first token. -/
  available : Bool := false
  deriving Inhabited

/-- A scanner error: the line is the context mark's when it is past the first line, else the
current position's, counted from one; none on the first line. -/
def scanError (context current : Mark) (problem : String) : YamlError :=
  let line :=
    if context.line ≠ 0 then context.line + 1
    else if current.line ≠ 0 then current.line + 1
    else 0
  ⟨line, problem⟩

def insertAt : List α → Nat → α → List α
  | xs, 0, a => a :: xs
  | [], _, a => [a]
  | x :: xs, n + 1, a => x :: insertAt xs n a

/-- A decimal digit's value. -/
def digitValue? (c : Char) : Option Nat :=
  if '0' ≤ c ∧ c ≤ '9' then some (c.toNat - '0'.toNat) else none

def isUriChar (c : Char) : Bool :=
  isWordChar c || ";/?:@&=+$,.!~*'()[]%".contains c

namespace Scanner

def ahead (s : Scanner) (k : Nat) : Char := s.text.getD (s.pos + k) '\x00'

def cur (s : Scanner) : Char := s.ahead 0

def room (s : Scanner) : Nat := s.text.size + 1

def skip (s : Scanner) : Scanner :=
  { s with
    pos := s.pos + 1
    mark := { s.mark with index := s.mark.index + 1, column := s.mark.column + 1 }
    newlines := if isBlank s.cur then s.newlines else 0 }

def skipLine (s : Scanner) : Scanner :=
  let width := if s.cur = '\r' ∧ s.ahead 1 = '\n' then 2 else if isBreak s.cur then 1 else 0
  if width = 0 then s
  else
    { s with
      pos := s.pos + width
      mark := { index := s.mark.index + width, line := s.mark.line + 1, column := 0 }
      newlines := s.newlines + 1 }

/-- Moves past the current character, adding it to `acc`. -/
def read (s : Scanner) (acc : String) : Scanner × String := (s.skip, acc.push s.cur)

/-- Moves past a line break, adding it to `acc`: a line or paragraph separator as itself, any
other break as a line feed. -/
def readLine (s : Scanner) (acc : String) : Scanner × String :=
  if s.cur = '\u2028' ∨ s.cur = '\u2029' then (s.skipLine, acc.push s.cur)
  else if isBreak s.cur then (s.skipLine, acc.push '\n')
  else (s, acc)

def skipWhile (p : Char → Bool) : Nat → Scanner → Scanner
  | 0, s => s
  | fuel + 1, s => if p s.cur then skipWhile p fuel s.skip else s

def readWhile (p : Char → Bool) : Nat → Scanner → String → Scanner × String
  | 0, s, acc => (s, acc)
  | fuel + 1, s, acc => if p s.cur then readWhile p fuel s.skip (acc.push s.cur) else (s, acc)

def advanceTo (target : Nat) : Nat → Scanner → Scanner
  | 0, s => s
  | fuel + 1, s =>
    if s.pos < target then advanceTo target fuel (if isBreak s.cur then s.skipLine else s.skip)
    else s

def advance (k : Nat) (s : Scanner) : Scanner := advanceTo (s.pos + k) (k + 1) s

def skipToBreak (s : Scanner) : Scanner := skipWhile (fun c => !isBreakOrEnd c) s.room s

def nextNumber (s : Scanner) : Nat := s.parsed + s.queue.length

def push (s : Scanner) (t : Token) : Scanner := { s with queue := s.queue ++ [t] }

def topKey (s : Scanner) : SimpleKey := s.keys.headD {}

def setTopKey (s : Scanner) (k : SimpleKey) : Scanner := { s with keys := k :: s.keys.tail }

/-! ### Comments -/

/-- How far ahead, at most 512 characters from `k`, the next character that is not blank lies
(line breaks count as not blank when `breaks` is false). -/
def contentAhead (s : Scanner) (breaks : Bool) (k : Nat) : Nat → Option Nat
  | 0 => none
  | fuel + 1 =>
    let c := s.ahead k
    if isBlank c || (breaks && isBreak c) then s.contentAhead breaks (k + 1) fuel else some k

/-- Reads a run of comment lines starting at the current `#`: each comment to its end, then the
next one when only blanks and line breaks stand before it. -/
def skipComments : Nat → Scanner → Scanner
  | 0, s => s
  | fuel + 1, s =>
    let s := s.skipToBreak
    match s.contentAhead true 0 512 with
    | some k => if s.ahead k = '#' then skipComments fuel (s.advance k) else s
    | none => s

def skipLineComment (s : Scanner) : Scanner :=
  if s.newlines > 0 then s
  else
    match s.contentAhead false 0 512 with
    | some k => if s.ahead k = '#' then (s.advance k).skipToBreak else s
    | none => s

/-- Skips blanks, comments and line breaks up to the next token. Tabs are skipped in flow
context and where no simple key may start; a line break in block context allows one. -/
def toNextToken : Nat → Scanner → Scanner
  | 0, s => s
  | fuel + 1, s =>
    let s := if s.mark.column = 0 ∧ s.cur = '\uFEFF' then s.skip else s
    let tabs := s.flowLevel > 0 || !s.simpleKeyAllowed
    let s := skipWhile (fun c => c = ' ' || (tabs && c = '\t')) s.room s
    let s := if s.cur = '#' then skipComments s.room s else s
    if isBreak s.cur then
      let s := s.skipLine
      toNextToken fuel (if s.flowLevel = 0 then { s with simpleKeyAllowed := true } else s)
    else s

/-! ### Simple keys, flow levels and indentation -/

def removeSimpleKey (s : Scanner) : Except YamlError Scanner :=
  let k := s.topKey
  if k.possible then
    if k.required then .error (scanError k.mark s.mark "could not find expected ':'")
    else .ok (s.setTopKey { k with possible := false })
  else .ok s

def saveSimpleKey (s : Scanner) : Except YamlError Scanner :=
  if s.simpleKeyAllowed then
    let required := s.flowLevel == 0 && s.indent == (s.mark.column : Int)
    let key : SimpleKey :=
      { possible := true, required, tokenNumber := s.nextNumber, mark := s.mark }
    (s.removeSimpleKey).map (·.setTopKey key)
  else .ok s

/-- Whether a candidate can still become a key: it must be on the current line and within
1024 characters. A candidate that cannot is dropped, or is an error when it is required. -/
def checkKey (s : Scanner) (k : SimpleKey) : Except YamlError (Bool × SimpleKey) :=
  if !k.possible then .ok (false, k)
  else if k.mark.line < s.mark.line ∨ k.mark.index + 1024 < s.mark.index then
    if k.required then .error (scanError k.mark s.mark "could not find expected ':'")
    else .ok (false, { k with possible := false })
  else .ok (true, k)

def increaseFlowLevel (s : Scanner) : Except YamlError Scanner :=
  let s := { s with keys := ({ mark := s.mark } : SimpleKey) :: s.keys, flowLevel := s.flowLevel + 1 }
  if s.flowLevel > 10000 then .error (scanError s.mark s.mark "exceeded max depth of 10000")
  else .ok s

def decreaseFlowLevel (s : Scanner) : Scanner :=
  if s.flowLevel > 0 then { s with flowLevel := s.flowLevel - 1, keys := s.keys.tail } else s

/-- In block context, opens a deeper indentation level at `column` with a token of `kind`,
inserted before token `number` when one is given and appended otherwise. -/
def rollIndent (s : Scanner) (column : Int) (number : Option Nat) (kind : TokenKind)
    (mark : Mark) : Except YamlError Scanner :=
  if s.flowLevel > 0 then .ok s
  else if s.indent < column then
    let s := { s with indents := s.indent :: s.indents, indent := column }
    if s.indents.length > 10000 then
      .error (scanError s.topKey.mark s.mark "exceeded max depth of 10000")
    else
      let t : Token := ⟨kind, mark, mark⟩
      match number with
      | some n => .ok { s with queue := insertAt s.queue (n - s.parsed) t }
      | none => .ok (s.push t)
  else .ok s

def popIndents (column : Int) (m : Mark) : List Int → Scanner → Scanner
  | [], s => s
  | i :: rest, s =>
    if s.indent > column then
      popIndents column m rest { s.push ⟨.blockEnd, m, m⟩ with indent := i, indents := rest }
    else s

/-- In block context, closes the indentation levels deeper than `column`; the `BLOCK-END`
tokens are placed just before `scanMark`, where the scan for the next token began. -/
def unrollIndent (s : Scanner) (column : Int) (scanMark : Mark) : Scanner :=
  if s.flowLevel > 0 then s
  else popIndents column { scanMark with index := scanMark.index - 1 } s.indents s

/-! ### Directives -/

def directiveName (s : Scanner) (start : Mark) : Except YamlError (Scanner × String) :=
  let (s, name) := readWhile isWordChar s.room s ""
  if name.isEmpty then .error (scanError start s.mark "could not find expected directive name")
  else if !isBlankOrEnd s.cur then
    .error (scanError start s.mark "found unexpected non-alphabetical character")
  else .ok (s, name)

def versionDigits (start : Mark) : Nat → Nat → Nat → Scanner → Except YamlError (Scanner × Nat × Nat)
  | 0, len, v, s => .ok (s, len, v)
  | fuel + 1, len, v, s =>
    match digitValue? s.cur with
    | some d =>
      if len + 1 > 2 then .error (scanError start s.mark "found extremely long version number")
      else versionDigits start fuel (len + 1) (v * 10 + d) s.skip
    | none => .ok (s, len, v)

def versionNumber (s : Scanner) (start : Mark) : Except YamlError (Scanner × Nat) := do
  let (s, len, v) ← versionDigits start 3 0 0 s
  if len = 0 then throw (scanError start s.mark "did not find expected version number")
  pure (s, v)

def versionValue (s : Scanner) (start : Mark) : Except YamlError (Scanner × Nat × Nat) := do
  let s := skipWhile isBlank s.room s
  let (s, major) ← s.versionNumber start
  if s.cur ≠ '.' then
    throw (scanError start s.mark "did not find expected digit or '.' character")
  let (s, minor) ← s.skip.versionNumber start
  pure (s, major, minor)

/-- A tag handle: `!`, `!!` or `!name!`. In a tag, a handle without its closing `!` is the
start of the suffix instead; in a `%TAG` directive it is an error. -/
def tagHandle (s : Scanner) (directive : Bool) (start : Mark) : Except YamlError (Scanner × String) :=
  if s.cur ≠ '!' then .error (scanError start s.mark "did not find expected '!'")
  else
    let (s, h) := s.read ""
    let (s, h) := readWhile isWordChar s.room s h
    if s.cur = '!' then .ok (s.read h)
    else if directive ∧ h ≠ "!" then .error (scanError start s.mark "did not find expected '!'")
    else .ok (s, h)

/-- Reads `%XX` escapes that together encode one UTF-8 character; `width` is the number of
bytes still expected, `none` before the first. -/
def uriEscapes (start : Mark) : Nat → Option Nat → Scanner → ByteArray →
    Except YamlError (Scanner × ByteArray)
  | 0, _, s, acc => .ok (s, acc)
  | fuel + 1, width, s, acc =>
    match width with
    | some 0 => .ok (s, acc)
    | _ =>
      match hexDigit? (s.ahead 1), hexDigit? (s.ahead 2) with
      | some hi, some lo =>
        if s.cur ≠ '%' then .error (scanError start s.mark "did not find URI escaped octet")
        else
          let octet := hi * 16 + lo
          let next : Except YamlError Nat :=
            match width with
            | none =>
              let w := utf8Width octet
              if w = 0 then .error (scanError start s.mark "found an incorrect leading UTF-8 octet")
              else .ok w
            | some w =>
              if octet &&& 0xC0 != 0x80 then
                .error (scanError start s.mark "found an incorrect trailing UTF-8 octet")
              else .ok w
          match next with
          | .error e => .error e
          | .ok w => uriEscapes start fuel (some (w - 1)) s.skip.skip.skip (acc.push octet.toUInt8)
      | _, _ => .error (scanError start s.mark "did not find URI escaped octet")

def uriChars (start : Mark) : Nat → Scanner → String → Bool → Except YamlError (Scanner × String × Bool)
  | 0, s, acc, seen => .ok (s, acc, seen)
  | fuel + 1, s, acc, seen =>
    if isUriChar s.cur then
      if s.cur = '%' then
        match uriEscapes start 5 none s ByteArray.empty with
        | .error e => .error e
        | .ok (s, bytes) => uriChars start fuel s (acc ++ Utf8.decodeLossy bytes) true
      else uriChars start fuel s.skip (acc.push s.cur) true
    else .ok (s, acc, seen)

def tagUri (s : Scanner) (head : String) (start : Mark) : Except YamlError (Scanner × String) := do
  let acc := if head.length > 1 then (head.drop 1).toString else ""
  let (s, uri, seen) ← uriChars start s.room s acc (head.length > 0)
  if !seen then throw (scanError start s.mark "did not find expected tag URI")
  pure (s, uri)

def tagDirectiveValue (s : Scanner) (start : Mark) : Except YamlError (Scanner × String × String) := do
  let s := skipWhile isBlank s.room s
  let (s, handle) ← s.tagHandle true start
  if !isBlank s.cur then throw (scanError start s.mark "did not find expected whitespace")
  let s := skipWhile isBlank s.room s
  let (s, expansion) ← s.tagUri "" start
  if !isBlankOrEnd s.cur then
    throw (scanError start s.mark "did not find expected whitespace or line break")
  pure (s, handle, expansion)

def directive (s : Scanner) : Except YamlError (Scanner × Token) := do
  let start := s.mark
  let (s, name) ← s.skip.directiveName start
  let (s, kind) ←
    if name = "YAML" then do
      let (s, major, minor) ← s.versionValue start
      pure (s, TokenKind.versionDirective major minor)
    else if name = "TAG" then do
      let (s, handle, expansion) ← s.tagDirectiveValue start
      pure (s, TokenKind.tagDirective handle expansion)
    else throw (scanError start s.mark "found unknown directive name")
  let stop := s.mark
  let s := skipWhile isBlank s.room s
  let s := if s.cur = '#' then s.skipToBreak else s
  if !isBreakOrEnd s.cur then
    throw (scanError start s.mark "did not find expected comment or line break")
  pure (if isBreak s.cur then s.skipLine else s, ⟨kind, start, stop⟩)

/-! ### Anchors, aliases and tags -/

/-- An anchor `&name` or an alias `*name`. The name must be followed by a blank or one of
`? : , ] } % @` and the backtick. -/
def anchorOrAlias (s : Scanner) (isAlias : Bool) : Except YamlError (Scanner × Token) :=
  let start := s.mark
  let (s, name) := readWhile isWordChar s.room s.skip ""
  let c := s.cur
  let ends := isBlankOrEnd c || c = '?' || c = ':' || c = ',' || c = ']' || c = closeBrace ||
    c = '%' || c = '@' || c = backtick
  if name.isEmpty || !ends then
    .error (scanError start s.mark "did not find expected alphabetic or numeric character")
  else .ok (s, ⟨if isAlias then .alias name else .anchor name, start, s.mark⟩)

def tagToken (s : Scanner) : Except YamlError (Scanner × Token) := do
  let start := s.mark
  let (s, handle, suffix) ←
    if s.ahead 1 = '<' then do
      let (s, suffix) ← s.skip.skip.tagUri "" start
      if s.cur ≠ '>' then throw (scanError start s.mark "did not find the expected '>'")
      pure (s.skip, "", suffix)
    else do
      let (s, handle) ← s.tagHandle false start
      if handle.length > 1 ∧ handle.endsWith "!" then
        let (s, suffix) ← s.tagUri "" start
        pure (s, handle, suffix)
      else
        let (s, suffix) ← s.tagUri handle start
        pure (if suffix.isEmpty then (s, "", "!") else (s, "!", suffix))
  if !isBlankOrEnd s.cur ∧ (s.flowLevel = 0 ∨ s.cur ≠ ',') then
    throw (scanError start s.mark "did not find expected whitespace or line break")
  pure (s, ⟨.tag handle suffix, start, s.mark⟩)

/-! ### Block scalars -/

/-- Moves past indentation spaces: all of them while the indentation is unknown (`0`), else up
to the column `indent`. -/
def skipIndent (indent : Nat) : Nat → Scanner → Scanner
  | 0, s => s
  | fuel + 1, s =>
    if (indent = 0 ∨ s.mark.column < indent) ∧ s.cur = ' ' then skipIndent indent fuel s.skip else s

/-- Reads the empty lines before block scalar content and the indentation of the next line;
returns the breaks read, the indentation (fixed now if it was unknown) and the mark after the
last line break. -/
def blockBreaks (start : Mark) (indent : Nat) (outer : Int) : Nat → Nat → Scanner → String → Mark →
    Except YamlError (Scanner × Nat × String × Mark)
  | 0, _, s, breaks, stop => .ok (s, indent, breaks, stop)
  | fuel + 1, maxIndent, s, breaks, stop =>
    let s := skipIndent indent s.room s
    let maxIndent := max maxIndent s.mark.column
    if (indent = 0 ∨ s.mark.column < indent) ∧ s.cur = '\t' then
      .error (scanError start s.mark "found a tab character where an indentation space is expected")
    else if isBreak s.cur then
      let (s, breaks) := s.readLine breaks
      blockBreaks start indent outer fuel maxIndent s breaks s.mark
    else
      let indent :=
        if indent = 0 then max (max maxIndent (outer + 1).toNat) 1 else indent
      .ok (s, indent, breaks, stop)

def blockLines (start : Mark) (literal : Bool) (outer : Int) :
    Nat → Nat → Scanner → String → String → String → Bool → Mark →
    Except YamlError (Scanner × String × String × String × Mark)
  | 0, _, s, value, leadingBreak, trailing, _, stop => .ok (s, value, leadingBreak, trailing, stop)
  | fuel + 1, indent, s, value, leadingBreak, trailing, leadingBlank, stop =>
    if s.mark.column = indent ∧ s.cur ≠ '\x00' then
      let trailingBlank := isBlank s.cur
      let value :=
        if !literal && !leadingBlank && !trailingBlank && leadingBreak.front = '\n' then
          if trailing.isEmpty then value.push ' ' else value
        else value ++ leadingBreak
      let value := value ++ trailing
      let leadingBlank := isBlank s.cur
      let (s, value) := readWhile (fun c => !isBreakOrEnd c) s.room s value
      let (s, leadingBreak) := s.readLine ""
      match blockBreaks start indent outer s.room 0 s "" s.mark with
      | .error e => .error e
      | .ok (s, indent, trailing, stop) =>
        blockLines start literal outer fuel indent s value leadingBreak trailing leadingBlank stop
    else .ok (s, value, leadingBreak, trailing, stop)

/-- The chomping indicator (`+` keep, `-` strip) and indentation indicator of a block scalar
header. -/
def blockHeader (s : Scanner) (start : Mark) : Except YamlError (Scanner × Int × Nat) :=
  let chompOf := fun (c : Char) => if c = '+' then (1 : Int) else -1
  if s.cur = '+' ∨ s.cur = '-' then
    let chomping := chompOf s.cur
    let s := s.skip
    match digitValue? s.cur with
    | some 0 => .error (scanError start s.mark "found an indentation indicator equal to 0")
    | some d => .ok (s.skip, chomping, d)
    | none => .ok (s, chomping, 0)
  else
    match digitValue? s.cur with
    | some 0 => .error (scanError start s.mark "found an indentation indicator equal to 0")
    | some d =>
      let s := s.skip
      if s.cur = '+' ∨ s.cur = '-' then .ok (s.skip, chompOf s.cur, d) else .ok (s, 0, d)
    | none => .ok (s, 0, 0)

def blockScalar (s : Scanner) (literal : Bool) : Except YamlError (Scanner × Token) := do
  let start := s.mark
  let (s, chomping, increment) ← s.skip.blockHeader start
  let s := skipWhile isBlank s.room s
  let s := if s.cur = '#' then s.skipToBreak else s
  if !isBreakOrEnd s.cur then
    throw (scanError start s.mark "did not find expected comment or line break")
  let s := if isBreak s.cur then s.skipLine else s
  let indent : Nat :=
    if increment > 0 then (if s.indent ≥ 0 then s.indent.toNat + increment else increment) else 0
  let (s, indent, trailing, stop) ← blockBreaks start indent s.indent s.room 0 s "" s.mark
  let (s, value, leadingBreak, trailing, stop) ←
    blockLines start literal s.indent s.room indent s "" "" trailing false stop
  let value := if chomping ≠ -1 then value ++ leadingBreak else value
  let value := if chomping = 1 then value ++ trailing else value
  pure (s, ⟨.scalar value (if literal then .literal else .folded), start, stop⟩)

/-! ### Quoted scalars -/

def atDocumentMarker (s : Scanner) : Bool :=
  s.mark.column = 0 &&
    ((s.ahead 0 = '-' && s.ahead 1 = '-' && s.ahead 2 = '-') || (s.ahead 0 = '.' && s.ahead 1 = '.' && s.ahead 2 = '.')) &&
    isBlankOrEnd (s.ahead 3)

/-- The text of the escape whose letter is `c`, or the number of hexadecimal digits it
takes. -/
def escapeOf (c : Char) : Option (String ⊕ Nat) :=
  match c with
  | '0' => some (.inl "\x00")
  | 'a' => some (.inl "\x07")
  | 'b' => some (.inl "\x08")
  | 't' | '\t' => some (.inl "\t")
  | 'n' => some (.inl "\n")
  | 'v' => some (.inl "\x0b")
  | 'f' => some (.inl "\x0c")
  | 'r' => some (.inl "\r")
  | 'e' => some (.inl "\x1b")
  | ' ' => some (.inl " ")
  | '"' => some (.inl "\"")
  | '\'' => some (.inl "'")
  | '/' => some (.inl "/")
  | '\\' => some (.inl "\\")
  | 'N' => some (.inl "\u0085")
  | '_' => some (.inl "\u00a0")
  | 'L' => some (.inl "\u2028")
  | 'P' => some (.inl "\u2029")
  | 'x' => some (.inr 2)
  | 'u' => some (.inr 4)
  | 'U' => some (.inr 8)
  | _ => none

def hexValue (s : Scanner) (k : Nat) : Nat → Option Nat
  | 0 => some 0
  | n + 1 => do
    let high ← s.hexValue k n
    let d ← hexDigit? (s.ahead (k + n))
    pure (high * 16 + d)

/-- Reads the characters of a quoted scalar up to a blank, a line break or its closing quote;
returns whether an escaped line break was read. -/
def quotedWord (start : Mark) (single : Bool) : Nat → Scanner → String →
    Except YamlError (Scanner × String × Bool)
  | 0, s, value => .ok (s, value, false)
  | fuel + 1, s, value =>
    let c := s.cur
    if isBlankOrEnd c then .ok (s, value, false)
    else if single ∧ c = '\'' ∧ s.ahead 1 = '\'' then quotedWord start single fuel s.skip.skip (value.push '\'')
    else if single ∧ c = '\'' then .ok (s, value, false)
    else if !single ∧ c = '"' then .ok (s, value, false)
    else if !single ∧ c = '\\' ∧ isBreak (s.ahead 1) then .ok (s.skip.skipLine, value, true)
    else if !single ∧ c = '\\' then
      match escapeOf (s.ahead 1) with
      | none => .error (scanError start s.mark "found unknown escape character")
      | some (.inl text) => quotedWord start single fuel s.skip.skip (value ++ text)
      | some (.inr width) =>
        let s := s.skip.skip
        match s.hexValue 0 width with
        | none => .error (scanError start s.mark "did not find expected hexdecimal number")
        | some code =>
          if (0xD800 ≤ code ∧ code ≤ 0xDFFF) ∨ code > 0x10FFFF then
            .error (scanError start s.mark "found invalid Unicode character escape code")
          else quotedWord start single fuel (skipWhile (fun _ => true) width s) (value.push (Char.ofNat code))
    else quotedWord start single fuel s.skip (value.push c)

/-- Reads blanks and line breaks inside a quoted scalar: the blanks (kept only before the first
break), the first break, the later breaks, and whether a break was read. -/
def quotedBlanks : Nat → Scanner → String → String → String → Bool →
    Scanner × String × String × String × Bool
  | 0, s, spaces, first, later, broken => (s, spaces, first, later, broken)
  | fuel + 1, s, spaces, first, later, broken =>
    if isBlank s.cur then
      if broken then quotedBlanks fuel s.skip spaces first later broken
      else quotedBlanks fuel s.skip (spaces.push s.cur) first later broken
    else if isBreak s.cur then
      if broken then
        let (s, later) := s.readLine later
        quotedBlanks fuel s spaces first later broken
      else
        let (s, first) := s.readLine first
        quotedBlanks fuel s "" first later true
    else (s, spaces, first, later, broken)

/-- Joins the blanks and breaks between two parts of a flowing scalar: one line break folds to
a space, more keep all but the first, and blanks within a line are kept. -/
def joinBreaks (value spaces first later : String) (broken : Bool) : String :=
  if broken then
    if first.front = '\n' then (if later.isEmpty then value.push ' ' else value ++ later)
    else value ++ first ++ later
  else value ++ spaces

def quotedBody (start : Mark) (single : Bool) : Nat → Scanner → String →
    Except YamlError (Scanner × String)
  | 0, s, value => .ok (s, value)
  | fuel + 1, s, value =>
    if s.atDocumentMarker then .error (scanError start s.mark "found unexpected document indicator")
    else if s.cur = '\x00' then .error (scanError start s.mark "found unexpected end of stream")
    else
      match quotedWord start single s.room s value with
      | .error e => .error e
      | .ok (s, value, escapedBreak) =>
        if (single ∧ s.cur = '\'') ∨ (!single ∧ s.cur = '"') then .ok (s, value)
        else
          let (s, spaces, first, later, broken) := quotedBlanks s.room s "" "" "" escapedBreak
          quotedBody start single fuel s (joinBreaks value spaces first later broken)

def quotedScalar (s : Scanner) (single : Bool) : Except YamlError (Scanner × Token) := do
  let start := s.mark
  let (s, value) ← quotedBody start single s.room s.skip ""
  let s := s.skip
  pure (s, ⟨.scalar value (if single then .singleQuoted else .doubleQuoted), start, s.mark⟩)

/-! ### Plain scalars -/

/-- Whether the current character ends the word of a plain scalar: `:` before a blank, and in
flow context a flow indicator or `?`. -/
def endsPlainWord (s : Scanner) : Bool :=
  let c := s.cur
  (c = ':' && isBlankOrEnd (s.ahead 1)) ||
    (s.flowLevel > 0 && (c = ',' || c = '?' || c = '[' || c = ']' || c = openBrace || c = closeBrace))

def plainWord : Nat → Scanner → String → String → String → String → Bool → Mark →
    Scanner × String × String × String × String × Bool × Mark
  | 0, s, value, spaces, first, later, broken, stop => (s, value, spaces, first, later, broken, stop)
  | fuel + 1, s, value, spaces, first, later, broken, stop =>
    if isBlankOrEnd s.cur || s.endsPlainWord then (s, value, spaces, first, later, broken, stop)
    else
      let value :=
        if broken || !spaces.isEmpty then joinBreaks value spaces first later broken else value
      let (s, value) := s.read value
      plainWord fuel s value "" "" "" false s.mark

/-- Reads blanks and line breaks after a word of a plain scalar. A tab in the indentation of a
continuation line is an error. -/
def plainBlanks (start : Mark) (indent : Int) : Nat → Scanner → String → String → String → Bool →
    Except YamlError (Scanner × String × String × String × Bool)
  | 0, s, spaces, first, later, broken => .ok (s, spaces, first, later, broken)
  | fuel + 1, s, spaces, first, later, broken =>
    if isBlank s.cur then
      if broken ∧ (s.mark.column : Int) < indent ∧ s.cur = '\t' then
        .error (scanError start s.mark "found a tab character that violates indentation")
      else if broken then plainBlanks start indent fuel s.skip spaces first later broken
      else plainBlanks start indent fuel s.skip (spaces.push s.cur) first later broken
    else if isBreak s.cur then
      if broken then
        let (s, later) := s.readLine later
        plainBlanks start indent fuel s spaces first later broken
      else
        let (s, first) := s.readLine first
        plainBlanks start indent fuel s "" first later true
    else .ok (s, spaces, first, later, broken)

/-- The lines of a plain scalar; it ends at a document marker, a comment, an indicator that
ends it, or a line indented no deeper than the enclosing block. -/
def plainLines (start : Mark) (indent : Int) : Nat → Scanner → String → String → String → String →
    Bool → Mark → Except YamlError (Scanner × String × Bool × Mark)
  | 0, s, value, _, _, _, broken, stop => .ok (s, value, broken, stop)
  | fuel + 1, s, value, spaces, first, later, broken, stop =>
    if s.atDocumentMarker || s.cur = '#' then .ok (s, value, broken, stop)
    else
      let (s, value, spaces, first, later, broken, stop) :=
        plainWord s.room s value spaces first later broken stop
      if !(isBlank s.cur || isBreak s.cur) then .ok (s, value, broken, stop)
      else
        match plainBlanks start indent s.room s spaces first later broken with
        | .error e => .error e
        | .ok (s, spaces, first, later, broken) =>
          if s.flowLevel = 0 ∧ (s.mark.column : Int) < indent then .ok (s, value, broken, stop)
          else plainLines start indent fuel s value spaces first later broken stop

def plainScalar (s : Scanner) : Except YamlError (Scanner × Token) := do
  let start := s.mark
  let (s, value, broken, stop) ← plainLines start (s.indent + 1) s.room s "" "" "" "" false start
  let s := if broken then { s with simpleKeyAllowed := true } else s
  pure (s, ⟨.scalar value .plain, start, stop⟩)

/-! ### Fetching tokens -/

def indicator (s : Scanner) (kind : TokenKind) : Scanner :=
  let start := s.mark
  let s := s.skip
  s.push ⟨kind, start, s.mark⟩

def fetchStreamStart (s : Scanner) : Scanner :=
  { s with indent := -1, keys := [{}], simpleKeyAllowed := true, started := true }.push
    ⟨.streamStart, s.mark, s.mark⟩

def fetchStreamEnd (s : Scanner) : Except YamlError Scanner := do
  let s :=
    if s.mark.column ≠ 0 then { s with mark := { s.mark with column := 0, line := s.mark.line + 1 } }
    else s
  let s := s.unrollIndent (-1) s.mark
  let s ← s.removeSimpleKey
  pure ({ s with simpleKeyAllowed := false }.push ⟨.streamEnd, s.mark, s.mark⟩)

def fetchDirective (s : Scanner) : Except YamlError Scanner := do
  let s := s.unrollIndent (-1) s.mark
  let s ← s.removeSimpleKey
  let (s, t) ← { s with simpleKeyAllowed := false }.directive
  pure (s.push t)

def fetchDocumentIndicator (s : Scanner) (kind : TokenKind) : Except YamlError Scanner := do
  let s := s.unrollIndent (-1) s.mark
  let s ← s.removeSimpleKey
  let start := s.mark
  let s := { s with simpleKeyAllowed := false }.skip.skip.skip
  pure (s.push ⟨kind, start, s.mark⟩)

def fetchFlowStart (s : Scanner) (kind : TokenKind) : Except YamlError Scanner := do
  let s ← s.saveSimpleKey
  let s ← s.increaseFlowLevel
  pure ({ s with simpleKeyAllowed := true }.indicator kind)

def fetchFlowEnd (s : Scanner) (kind : TokenKind) : Except YamlError Scanner := do
  let s ← s.removeSimpleKey
  pure ({ s.decreaseFlowLevel with simpleKeyAllowed := false }.indicator kind)

def fetchFlowEntry (s : Scanner) : Except YamlError Scanner := do
  let s ← s.removeSimpleKey
  pure ({ s with simpleKeyAllowed := true }.indicator .flowEntry)

def fetchBlockEntry (s : Scanner) : Except YamlError Scanner := do
  let s ←
    if s.flowLevel = 0 then do
      if !s.simpleKeyAllowed then
        throw (scanError s.mark s.mark "block sequence entries are not allowed in this context")
      s.rollIndent s.mark.column none .blockSequenceStart s.mark
    else pure s
  let s ← s.removeSimpleKey
  pure ({ s with simpleKeyAllowed := true }.indicator .blockEntry)

def fetchKey (s : Scanner) : Except YamlError Scanner := do
  let s ←
    if s.flowLevel = 0 then do
      if !s.simpleKeyAllowed then
        throw (scanError s.mark s.mark "mapping keys are not allowed in this context")
      s.rollIndent s.mark.column none .blockMappingStart s.mark
    else pure s
  let s ← s.removeSimpleKey
  pure ({ s with simpleKeyAllowed := s.flowLevel = 0 }.indicator .key)

/-- `:`. After a simple key candidate it inserts the `KEY` token before the key; otherwise it
is the value of a complex key, which block context allows only where a key could start. -/
def fetchValue (s : Scanner) : Except YamlError Scanner := do
  let (valid, k) ← s.checkKey s.topKey
  let s := s.setTopKey k
  let s ←
    if valid then do
      let s := { s with queue := insertAt s.queue (k.tokenNumber - s.parsed) ⟨.key, k.mark, k.mark⟩ }
      let s ← s.rollIndent k.mark.column (some k.tokenNumber) .blockMappingStart k.mark
      pure { s.setTopKey { k with possible := false } with simpleKeyAllowed := false }
    else do
      let s ←
        if s.flowLevel = 0 then do
          if !s.simpleKeyAllowed then
            throw (scanError s.mark s.mark "mapping values are not allowed in this context")
          s.rollIndent s.mark.column none .blockMappingStart s.mark
        else pure s
      pure { s with simpleKeyAllowed := s.flowLevel = 0 }
  pure (s.indicator .value)

def fetchKeyLike (s : Scanner) (scan : Scanner → Except YamlError (Scanner × Token)) :
    Except YamlError Scanner := do
  let s ← s.saveSimpleKey
  let (s, t) ← scan { s with simpleKeyAllowed := false }
  pure (s.push t)

def fetchBlockScalar (s : Scanner) (literal : Bool) : Except YamlError Scanner := do
  let s ← s.removeSimpleKey
  let (s, t) ← { s with simpleKeyAllowed := true }.blockScalar literal
  pure (s.push t)

def startsPlain (s : Scanner) : Bool :=
  let c := s.cur
  !(isBlankOrEnd c || "-?:,[]#&*!|>'\"%@".contains c || c = openBrace || c = closeBrace || c = backtick) ||
    (c = '-' && !isBlank (s.ahead 1)) ||
    (s.flowLevel = 0 && (c = '?' || c = ':') && !isBlankOrEnd (s.ahead 1))

def fetchContent (s : Scanner) : Except YamlError Scanner :=
  let c := s.cur
  let blankNext := isBlankOrEnd (s.ahead 1)
  if c = '[' then s.fetchFlowStart .flowSequenceStart
  else if c = openBrace then s.fetchFlowStart .flowMappingStart
  else if c = ']' then s.fetchFlowEnd .flowSequenceEnd
  else if c = closeBrace then s.fetchFlowEnd .flowMappingEnd
  else if c = ',' then s.fetchFlowEntry
  else if c = '-' ∧ blankNext then s.fetchBlockEntry
  else if c = '?' ∧ (s.flowLevel > 0 ∨ blankNext) then s.fetchKey
  else if c = ':' ∧ (s.flowLevel > 0 ∨ blankNext) then s.fetchValue
  else if c = '*' then s.fetchKeyLike (·.anchorOrAlias true)
  else if c = '&' then s.fetchKeyLike (·.anchorOrAlias false)
  else if c = '!' then s.fetchKeyLike (·.tagToken)
  else if c = '|' ∧ s.flowLevel = 0 then s.fetchBlockScalar true
  else if c = '>' ∧ s.flowLevel = 0 then s.fetchBlockScalar false
  else if c = '\'' then s.fetchKeyLike (·.quotedScalar true)
  else if c = '"' then s.fetchKeyLike (·.quotedScalar false)
  else if s.startsPlain then s.fetchKeyLike (·.plainScalar)
  else .error (scanError s.mark s.mark "found character that cannot start any token")

def fetchNextToken (s : Scanner) : Except YamlError Scanner := do
  if !s.started then return s.fetchStreamStart
  let scanMark := s.mark
  let s := toNextToken s.room s
  let s := s.unrollIndent s.mark.column scanMark
  if s.cur = '\x00' then return (← s.fetchStreamEnd)
  if s.mark.column = 0 ∧ s.cur = '%' then return (← s.fetchDirective)
  if s.atDocumentMarker then
    return (← s.fetchDocumentIndicator (if s.cur = '-' then .documentStart else .documentEnd))
  let s ← s.fetchContent
  match s.queue.getLast? with
  | some ⟨.blockEntry, _, _⟩ => pure s
  | _ => pure s.skipLineComment

/-- Fills the queue until it holds three tokens and its first token cannot be a simple key any
more. -/
def fetchMoreTokens : Nat → Scanner → Except YamlError Scanner
  | 0, s => .ok { s with available := true }
  | fuel + 1, s => do
    if s.queue.length > 2 then
      let head := fun (k : SimpleKey) => k.possible && k.tokenNumber == s.parsed
      match s.keys.find? head with
      | none => return { s with available := true }
      | some k =>
        let (valid, k) ← s.checkKey k
        let s := { s with keys := s.keys.map fun k' => if head k' then k else k' }
        if !valid then return { s with available := true }
        fetchMoreTokens fuel (← fetchNextToken s)
    else fetchMoreTokens fuel (← fetchNextToken s)

def peek (s : Scanner) : Except YamlError (Token × Scanner) := do
  let s ← if s.available then pure s else fetchMoreTokens (4 * s.text.size + 16) s
  match s.queue with
  | t :: _ => pure (t, s)
  | [] => pure (⟨.streamEnd, s.mark, s.mark⟩, s)

def skipToken (s : Scanner) : Scanner :=
  { s with available := false, parsed := s.parsed + 1, queue := s.queue.tail }

end Scanner

def Scanner.ofChars (text : Array Char) : Scanner := { text }

end WikiDump.Yaml


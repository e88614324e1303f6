import WikiDump.Yaml.Scanner
/-!
# Parsing YAML events

The parser reads tokens and produces events: the start and end of the stream, of documents, of
sequences and of mappings, scalars and aliases. It follows the grammar of YAML 1.1 with an
explicit stack of states, one state per step, so each event costs one step.

Where the grammar allows a node to be left out — an empty value, a key without a value, an
entry of `-` alone — the parser produces an empty plain scalar. A node with an anchor or a tag
and no content is an empty scalar too.

A document may start with directives: `%YAML 1.1` (any other version is refused) and `%TAG`
directives, which bind tag handles for the document; `!` and `!!` are bound by default, `!!`
to `tag:yaml.org,2002:`.

A parser error names a line counted from zero: the line of the construct it was parsing when
that is past the first line, else the line of the token it did not expect.
-/

namespace WikiDump.Yaml

/-- The kinds of events. -/
inductive EventKind where
  | streamStart
  | streamEnd
  | documentStart
  | documentEnd
  | alias (name : String)
  /-- A scalar: its anchor, its tag (empty when it has none), its text and its style. -/
  | scalar (anchor : Option String) (tag : String) (text : String) (style : ScalarStyle)
  | sequenceStart (anchor : Option String) (tag : String)
  | sequenceEnd
  | mappingStart (anchor : Option String) (tag : String)
  | mappingEnd
  deriving Inhabited, Repr

/-- An event and where it starts. -/
structure Event where
  kind : EventKind
  start : Mark
  deriving Inhabited, Repr

/-- What the parser expects next. -/
inductive ParseState where
  | streamStart
  | implicitDocumentStart
  | documentStart
  | documentContent
  | documentEnd
  | blockNode
  | blockNodeOrIndentlessSequence
  | flowNode
  | blockSequenceFirstEntry
  | blockSequenceEntry
  | indentlessSequenceEntry
  | blockMappingFirstKey
  | blockMappingKey
  | blockMappingValue
  | flowSequenceFirstEntry
  | flowSequenceEntry
  | flowSequenceEntryMappingKey
  | flowSequenceEntryMappingValue
  | flowSequenceEntryMappingEnd
  | flowMappingFirstKey
  | flowMappingKey
  | flowMappingValue
  | flowMappingEmptyValue
  | finished
  deriving Inhabited, Repr, BEq

/-- The state of a parser. -/
structure Parser where
  scanner : Scanner
  state : ParseState := .streamStart
  states : List ParseState := []
  /-- Where the collections being parsed start, the innermost first. -/
  marks : List Mark := []
  /-- The tag handles bound in the current document and what they stand for. -/
  tagDirectives : List (String × String) := []
  deriving Inhabited

def parseError (problem : String) (at_ : Mark) : YamlError := ⟨at_.line, problem⟩

def parseErrorIn (context : Mark) (problem : String) (at_ : Mark) : YamlError :=
  ⟨if context.line ≠ 0 then context.line else at_.line, problem⟩

def defaultTagDirectives : List (String × String) := [("!", "!"), ("!!", "tag:yaml.org,2002:")]

namespace TokenKind

def isBlockEntry : TokenKind → Bool | .blockEntry => true | _ => false
def isBlockEnd : TokenKind → Bool | .blockEnd => true | _ => false
def isKey : TokenKind → Bool | .key => true | _ => false
def isValue : TokenKind → Bool | .value => true | _ => false
def isFlowEntry : TokenKind → Bool | .flowEntry => true | _ => false
def isFlowSequenceEnd : TokenKind → Bool | .flowSequenceEnd => true | _ => false
def isFlowMappingEnd : TokenKind → Bool | .flowMappingEnd => true | _ => false
def isDocumentStart : TokenKind → Bool | .documentStart => true | _ => false
def isDocumentEnd : TokenKind → Bool | .documentEnd => true | _ => false
def isStreamEnd : TokenKind → Bool | .streamEnd => true | _ => false
def isDirective : TokenKind → Bool
  | .versionDirective _ _ | .tagDirective _ _ => true
  | _ => false

end TokenKind

namespace Parser

def peek (p : Parser) : Except YamlError (Token × Parser) := do
  let (t, s) ← p.scanner.peek
  pure (t, { p with scanner := s })

def skip (p : Parser) : Parser := { p with scanner := p.scanner.skipToken }

def popState (p : Parser) : Parser :=
  { p with state := p.states.headD .finished, states := p.states.tail }

def pushState (p : Parser) (st : ParseState) : Parser := { p with states := st :: p.states }

def popMark (p : Parser) : Parser := { p with marks := p.marks.tail }

def topMark (p : Parser) : Mark := p.marks.headD {}

def emptyScalar (m : Mark) : Event := ⟨.scalar none "" "" .plain, m⟩

def directives : Nat → Parser → Bool → Except YamlError Parser
  | 0, p, _ => .ok p
  | fuel + 1, p, sawVersion => do
    let (t, p) ← p.peek
    match t.kind with
    | .versionDirective major minor =>
      if sawVersion then throw (parseError "found duplicate %YAML directive" t.start)
      if major ≠ 1 ∨ minor ≠ 1 then throw (parseError "found incompatible YAML document" t.start)
      directives fuel p.skip true
    | .tagDirective handle expansion =>
      if p.tagDirectives.any (·.1 == handle) then
        throw (parseError "found duplicate %TAG directive" t.start)
      directives fuel { p.skip with tagDirectives := p.tagDirectives ++ [(handle, expansion)] } sawVersion
    | _ =>
      let missing := defaultTagDirectives.filter fun (h, _) => !p.tagDirectives.any (·.1 == h)
      pure { p with tagDirectives := p.tagDirectives ++ missing }

/-- A node: an alias, or content with an optional anchor and tag. `block` allows block
collections, `indentless` a sequence of `-` entries at the indentation of a mapping key. -/
def node (p : Parser) (block indentless : Bool) : Except YamlError (Event × Parser) := do
  let (t, p) ← p.peek
  if let .alias name := t.kind then return (⟨.alias name, t.start⟩, p.popState.skip)
  let start := t.start
  let (anchor, tagged, tagMark, t, p) ←
    match t.kind with
    | .anchor name => do
      let (t2, p) ← p.skip.peek
      match t2.kind with
      | .tag h sfx =>
        let (t3, p) ← p.skip.peek
        pure (some name, some (h, sfx), t2.start, t3, p)
      | _ => pure (some name, none, start, t2, p)
    | .tag h sfx => do
      let (t2, p) ← p.skip.peek
      match t2.kind with
      | .anchor name =>
        let (t3, p) ← p.skip.peek
        pure (some name, some (h, sfx), start, t3, p)
      | _ => pure (none, some (h, sfx), start, t2, p)
    | _ => pure (none, none, start, t, p)
  let tag ←
    match tagged with
    | none => pure ""
    | some (handle, suffix) =>
      if handle.isEmpty then pure suffix
      else
        match p.tagDirectives.find? (·.1 == handle) with
        | some (_, expansion) => pure (expansion ++ suffix)
        | none => throw (parseErrorIn start "found undefined tag handle" tagMark)
  if indentless ∧ t.kind.isBlockEntry then
    return (⟨.sequenceStart anchor tag, start⟩, { p with state := .indentlessSequenceEntry })
  match t.kind with
  | .scalar text style => return (⟨.scalar anchor tag text style, start⟩, p.popState.skip)
  | .flowSequenceStart =>
    return (⟨.sequenceStart anchor tag, start⟩, { p with state := .flowSequenceFirstEntry })
  | .flowMappingStart =>
    return (⟨.mappingStart anchor tag, start⟩, { p with state := .flowMappingFirstKey })
  | .blockSequenceStart =>
    if block then
      return (⟨.sequenceStart anchor tag, start⟩, { p with state := .blockSequenceFirstEntry })
  | .blockMappingStart =>
    if block then
      return (⟨.mappingStart anchor tag, start⟩, { p with state := .blockMappingFirstKey })
  | _ => pure ()
  if anchor.isSome ∨ !tag.isEmpty then
    return (⟨.scalar anchor tag "" .plain, start⟩, p.popState)
  throw (parseErrorIn start "did not find expected node content" t.start)

def skipDocumentEnds : Nat → Token → Parser → Except YamlError (Token × Parser)
  | 0, t, p => .ok (t, p)
  | fuel + 1, t, p =>
    if t.kind.isDocumentEnd then do
      let (t, p) ← p.skip.peek
      skipDocumentEnds fuel t p
    else .ok (t, p)

/-- The start of a document, or the end of the stream. Before a document that is not the
first, extra `...` markers are skipped. -/
def documentStart (p : Parser) (implicit : Bool) : Except YamlError (Event × Parser) := do
  let (t, p) ← p.peek
  let (t, p) ← if implicit then pure (t, p) else skipDocumentEnds (p.scanner.text.size + 2) t p
  let k := t.kind
  if implicit ∧ !k.isDirective ∧ !k.isDocumentStart ∧ !k.isStreamEnd then
    let p ← directives 3 p false
    return (⟨.documentStart, t.start⟩, { p.pushState .documentEnd with state := .blockNode })
  else if !k.isStreamEnd then
    let start := t.start
    let p ← directives (p.scanner.text.size + 2) p false
    let (t, p) ← p.peek
    if !t.kind.isDocumentStart then
      throw (parseError "did not find expected <document start>" t.start)
    return (⟨.documentStart, start⟩, { p.pushState .documentEnd with state := .documentContent }.skip)
  else return (⟨.streamEnd, t.start⟩, { p with state := .finished }.skip)

def documentContent (p : Parser) : Except YamlError (Event × Parser) := do
  let (t, p) ← p.peek
  let k := t.kind
  if k.isDirective ∨ k.isDocumentStart ∨ k.isDocumentEnd ∨ k.isStreamEnd then
    return (emptyScalar t.start, p.popState)
  p.node true false

def documentEnd (p : Parser) : Except YamlError (Event × Parser) := do
  let (t, p) ← p.peek
  let p := if t.kind.isDocumentEnd then p.skip else p
  return (⟨.documentEnd, t.start⟩, { p with tagDirectives := [], state := .documentStart })

def blockSequenceEntry (p : Parser) (first : Bool) : Except YamlError (Event × Parser) := do
  let p ←
    if first then do
      let (t, p) ← p.peek
      pure { p with marks := t.start :: p.marks }.skip
    else pure p
  let (t, p) ← p.peek
  match t.kind with
  | .blockEntry =>
    let mark := t.stop
    let (t, p) ← p.skip.peek
    if t.kind.isBlockEntry ∨ t.kind.isBlockEnd then
      return (emptyScalar mark, { p with state := .blockSequenceEntry })
    (p.pushState .blockSequenceEntry).node true false
  | .blockEnd => return (⟨.sequenceEnd, t.start⟩, p.popState.popMark.skip)
  | _ => throw (parseErrorIn p.topMark "did not find expected '-' indicator" t.start)

def indentlessSequenceEntry (p : Parser) : Except YamlError (Event × Parser) := do
  let (t, p) ← p.peek
  if t.kind.isBlockEntry then
    let mark := t.stop
    let (t, p) ← p.skip.peek
    let k := t.kind
    if k.isBlockEntry ∨ k.isKey ∨ k.isValue ∨ k.isBlockEnd then
      return (emptyScalar mark, { p with state := .indentlessSequenceEntry })
    (p.pushState .indentlessSequenceEntry).node true false
  else return (⟨.sequenceEnd, t.start⟩, p.popState)

def blockMappingKey (p : Parser) (first : Bool) : Except YamlError (Event × Parser) := do
  let p ←
    if first then do
      let (t, p) ← p.peek
      pure { p with marks := t.start :: p.marks }.skip
    else pure p
  let (t, p) ← p.peek
  match t.kind with
  | .key =>
    let mark := t.stop
    let (t, p) ← p.skip.peek
    let k := t.kind
    if k.isKey ∨ k.isValue ∨ k.isBlockEnd then
      return (emptyScalar mark, { p with state := .blockMappingValue })
    (p.pushState .blockMappingValue).node true true
  | .blockEnd => return (⟨.mappingEnd, t.start⟩, p.popState.popMark.skip)
  | _ => throw (parseErrorIn p.topMark "did not find expected key" t.start)

def blockMappingValue (p : Parser) : Except YamlError (Event × Parser) := do
  let (t, p) ← p.peek
  if t.kind.isValue then
    let mark := t.stop
    let (t, p) ← p.skip.peek
    let k := t.kind
    if k.isKey ∨ k.isValue ∨ k.isBlockEnd then
      return (emptyScalar mark, { p with state := .blockMappingKey })
    (p.pushState .blockMappingKey).node true true
  else return (emptyScalar t.start, { p with state := .blockMappingKey })

/-- An entry of a flow sequence, or its end; an entry with `?` or `:` is a mapping of one
pair. -/
def flowSequenceEntry (p : Parser) (first : Bool) : Except YamlError (Event × Parser) := do
  let p ←
    if first then do
      let (t, p) ← p.peek
      pure { p with marks := t.start :: p.marks }.skip
    else pure p
  let (t, p) ← p.peek
  let (t, p) ←
    if !t.kind.isFlowSequenceEnd ∧ !first then
      if t.kind.isFlowEntry then p.skip.peek
      else throw (parseErrorIn p.topMark "did not find expected ',' or ']'" t.start)
    else pure (t, p)
  if !t.kind.isFlowSequenceEnd then
    if t.kind.isKey then
      return (⟨.mappingStart none "", t.start⟩, { p with state := .flowSequenceEntryMappingKey }.skip)
    return ← (p.pushState .flowSequenceEntry).node false false
  return (⟨.sequenceEnd, t.start⟩, p.popState.popMark.skip)

def flowSequenceEntryMappingKey (p : Parser) : Except YamlError (Event × Parser) := do
  let (t, p) ← p.peek
  let k := t.kind
  if k.isValue ∨ k.isFlowEntry ∨ k.isFlowSequenceEnd then
    return (emptyScalar t.stop, { p.skip with state := .flowSequenceEntryMappingValue })
  (p.pushState .flowSequenceEntryMappingValue).node false false

def flowSequenceEntryMappingValue (p : Parser) : Except YamlError (Event × Parser) := do
  let (t, p) ← p.peek
  if t.kind.isValue then
    let (t2, p) ← p.skip.peek
    if !t2.kind.isFlowEntry ∧ !t2.kind.isFlowSequenceEnd then
      (p.pushState .flowSequenceEntryMappingEnd).node false false
    else pure (emptyScalar t.start, { p with state := .flowSequenceEntryMappingEnd })
  else pure (emptyScalar t.start, { p with state := .flowSequenceEntryMappingEnd })

def flowSequenceEntryMappingEnd (p : Parser) : Except YamlError (Event × Parser) := do
  let (t, p) ← p.peek
  return (⟨.mappingEnd, t.start⟩, { p with state := .flowSequenceEntry })

def flowMappingKey (p : Parser) (first : Bool) : Except YamlError (Event × Parser) := do
  let p ←
    if first then do
      let (t, p) ← p.peek
      pure { p with marks := t.start :: p.marks }.skip
    else pure p
  let (t, p) ← p.peek
  let (t, p) ←
    if !t.kind.isFlowMappingEnd ∧ !first then
      if t.kind.isFlowEntry then p.skip.peek
      else throw (parseErrorIn p.topMark "did not find expected ',' or '\x7d'" t.start)
    else pure (t, p)
  if !t.kind.isFlowMappingEnd then
    if t.kind.isKey then
      let (t, p) ← p.skip.peek
      let k := t.kind
      if k.isValue ∨ k.isFlowEntry ∨ k.isFlowMappingEnd then
        return (emptyScalar t.start, { p with state := .flowMappingValue })
      return ← (p.pushState .flowMappingValue).node false false
    return ← (p.pushState .flowMappingEmptyValue).node false false
  return (⟨.mappingEnd, t.start⟩, p.popState.popMark.skip)

def flowMappingValue (p : Parser) (empty : Bool) : Except YamlError (Event × Parser) := do
  let (t, p) ← p.peek
  if empty then return (emptyScalar t.start, { p with state := .flowMappingKey })
  if t.kind.isValue then
    let (t, p) ← p.skip.peek
    if !t.kind.isFlowEntry ∧ !t.kind.isFlowMappingEnd then (p.pushState .flowMappingKey).node false false
    else pure (emptyScalar t.start, { p with state := .flowMappingKey })
  else pure (emptyScalar t.start, { p with state := .flowMappingKey })

/-- The next event. After the end of the stream the parser keeps producing it. -/
def next (p : Parser) : Except YamlError (Event × Parser) :=
  match p.state with
  | .streamStart => do
    let (t, p) ← p.peek
    if !(t.kind matches .streamStart) then
      throw (parseError "did not find expected <stream-start>" t.start)
    return (⟨.streamStart, t.start⟩, { p with state := .implicitDocumentStart }.skip)
  | .implicitDocumentStart => p.documentStart true
  | .documentStart => p.documentStart false
  | .documentContent => p.documentContent
  | .documentEnd => p.documentEnd
  | .blockNode => p.node true false
  | .blockNodeOrIndentlessSequence => p.node true true
  | .flowNode => p.node false false
  | .blockSequenceFirstEntry => p.blockSequenceEntry true
  | .blockSequenceEntry => p.blockSequenceEntry false
  | .indentlessSequenceEntry => p.indentlessSequenceEntry
  | .blockMappingFirstKey => p.blockMappingKey true
  | .blockMappingKey => p.blockMappingKey false
  | .blockMappingValue => p.blockMappingValue
  | .flowSequenceFirstEntry => p.flowSequenceEntry true
  | .flowSequenceEntry => p.flowSequenceEntry false
  | .flowSequenceEntryMappingKey => p.flowSequenceEntryMappingKey
  | .flowSequenceEntryMappingValue => p.flowSequenceEntryMappingValue
  | .flowSequenceEntryMappingEnd => p.flowSequenceEntryMappingEnd
  | .flowMappingFirstKey => p.flowMappingKey true
  | .flowMappingKey => p.flowMappingKey false
  | .flowMappingValue => p.flowMappingValue false
  | .flowMappingEmptyValue => p.flowMappingValue true
  | .finished => .ok (⟨.streamEnd, p.scanner.mark⟩, p)

end Parser

def Parser.ofChars (text : Array Char) : Parser := { scanner := Scanner.ofChars text }

end WikiDump.Yaml


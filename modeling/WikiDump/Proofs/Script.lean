import WikiDump.Dump.Scan
/-!
# Dump scripts

A dump writer writes a table as a script of SQL text: blanks and comments (`#` and `-- ` lines,
`/* … */` blocks and the conditional comments `/*!NNNNN … */`), empty statements, statements
that hold no rows (`SET`, `LOCK TABLES`, `CREATE TABLE`, …), and `INSERT` or `REPLACE`
statements whose tuples hold the rows. `Script` is that text as a grammar: each part carries
the conditions under which the writer can produce it, and `Script.render` writes it out.

What a script holds for a table is `Script.rows`: the tuples of the inserts into that table
(names compare in ASCII case-insensitively), each literal by its content.
-/

namespace WikiDump

open Bytes

def Content.erase : Content → Content
  | .text t => .text { bytes := t.bytes }
  | c => c

namespace Script

def word (s : String) : List UInt8 := s.toUTF8.data.toList

/-- A run of blanks. -/
structure Blanks where
  bytes : List UInt8
  blank : ∀ b ∈ bytes, isSpace b = true

/-! ## Trivia -/

/-- Blanks and comments between statements. A `--` comment goes on with a blank or ends with
its line; a block comment holds no `*/`. -/
inductive Trivia where
  | blank (b : UInt8) (isBlank : isSpace b = true)
  | hashLine (text : List UInt8) (oneLine : newline ∉ text)
  | dashLine (text : List UInt8) (oneLine : newline ∉ text) (spaced : ∀ b ∈ text.head?, isSpace b = true)
  | block (text : List UInt8) (open_ : ∀ k, text[k]? = some Bytes.star → text[k + 1]? ≠ some slash)

def Trivia.render : Trivia → List UInt8
  | .blank b _ => [b]
  | .hashLine text _ => hash :: text ++ [newline]
  | .dashLine text _ _ => minus :: minus :: text ++ [newline]
  | .block text _ => slash :: Bytes.star :: text ++ [Bytes.star, slash]

/-! ## Quoted tokens -/

/-- One unit of the body of a quoted token: a byte after a backslash, the quote doubled, or a
byte on its own. -/
inductive QuoteUnit where
  | escaped (b : UInt8)
  | doubled
  | plain (b : UInt8)

def QuoteUnit.render (quote : UInt8) : QuoteUnit → List UInt8
  | .escaped b => [backslash, b]
  | .doubled => [quote, quote]
  | .plain b => [b]

/-- A unit that reads back inside `quote`: a backslash escapes only outside backticks, and a
byte on its own is neither the quote nor such a backslash. -/
def QuoteUnit.Fits (quote : UInt8) : QuoteUnit → Prop
  | .escaped _ => quote ≠ backtick
  | .doubled => True
  | .plain b => b ≠ quote ∧ (quote ≠ backtick → b ≠ backslash)

/-- A token quoted by `'`, `"` or a backtick. -/
structure Quoted where
  quote : UInt8
  units : List QuoteUnit
  isQuote : quote = singleQuote ∨ quote = doubleQuote ∨ quote = backtick
  fits : ∀ u ∈ units, u.Fits quote

def Quoted.body (t : Quoted) : List UInt8 := t.units.flatMap (·.render t.quote)

def Quoted.render (t : Quoted) : List UInt8 := t.quote :: t.body ++ [t.quote]

/-- The letter after the backslash by which a dump writer escapes a byte of a string: NUL, line
feed, carriage return, backslash, both quotes and control-Z. -/
def escapeCode (b : UInt8) : Option UInt8 :=
  if b = 0 then some 0x30
  else if b = newline then some 0x6E
  else if b = 0x0D then some 0x72
  else if b = backslash then some backslash
  else if b = singleQuote then some singleQuote
  else if b = doubleQuote then some doubleQuote
  else if b = 0x1A then some 0x5A
  else none

theorem escapeCode_none {b : UInt8} (plain : escapeCode b = none) :
    b ≠ singleQuote ∧ b ≠ backslash := by
  constructor
  · intro quote
    subst quote
    exact absurd plain (by decide)
  · intro slash
    subst slash
    exact absurd plain (by decide)

def stringUnit (b : UInt8) : QuoteUnit :=
  match escapeCode b with
  | some e => .escaped e
  | none => .plain b

theorem stringUnit_fits (b : UInt8) : (stringUnit b).Fits singleQuote := by
  unfold stringUnit
  cases escaped : escapeCode b with
  | some e => exact (by decide : singleQuote ≠ backtick)
  | none =>
      have plain := escapeCode_none escaped
      exact ⟨plain.1, fun _ => plain.2⟩

def stringToken (bytes : List UInt8) : Quoted where
  quote := singleQuote
  units := bytes.map stringUnit
  isQuote := .inl rfl
  fits := by
    intro u member
    obtain ⟨b, _, rfl⟩ := List.mem_map.1 member
    exact stringUnit_fits b

def backtickUnit (b : UInt8) : QuoteUnit := if b = backtick then .doubled else .plain b

def backtickToken (name : List UInt8) : Quoted where
  quote := backtick
  units := name.map backtickUnit
  isQuote := .inr (.inr rfl)
  fits := by
    intro u member
    obtain ⟨b, _, rfl⟩ := List.mem_map.1 member
    unfold backtickUnit
    split
    · trivial
    · rename_i other
      exact ⟨other, fun notTick => absurd rfl notTick⟩

/-! ## Literals and tuples -/

def digitsValue (digits : List UInt8) : Nat :=
  digits.foldl (fun n d => n * 10 + (d - 0x30).toNat) 0

def hexDigit (n : UInt8) : UInt8 := if n < 10 then 0x30 + n else 0x37 + n

def hexPair (b : UInt8) : List UInt8 := [hexDigit (b >>> 4), hexDigit (b &&& 0x0F)]

def asciiString (bytes : List UInt8) : String := String.ofList (bytes.map fun b => Char.ofNat b.toNat)

def signText (negative : Bool) : List UInt8 := if negative then [minus] else []

def fractionText (fraction : List UInt8) : List UInt8 := if fraction = [] then [] else dot :: fraction

def exponentText : Option (Bool × List UInt8) → List UInt8
  | none => []
  | some (negative, digits) => 0x65 :: signText negative ++ digits

def floatText (negative : Bool) (whole fraction : List UInt8) (exponent : Option (Bool × List UInt8)) :
    List UInt8 :=
  signText negative ++ whole ++ fractionText fraction ++ exponentText exponent

/-- A literal of a tuple as a dump writer writes it. An integer fits in 64 bits; a float has a
fraction or an exponent and reads as the double `value`; hexadecimal text has a byte. -/
inductive Lit where
  | null
  | integer (negative : Bool) (digits : List UInt8)
      (numeral : digits ≠ [] ∧ ∀ d ∈ digits, isDigit d = true)
      (fits : if negative then digitsValue digits ≤ 9223372036854775808 else digitsValue digits < 9223372036854775808)
  | float (negative : Bool) (whole fraction : List UInt8) (exponent : Option (Bool × List UInt8))
      (value : Float)
      (numeral : whole ≠ [] ∧ (∀ d ∈ whole, isDigit d = true) ∧ (∀ d ∈ fraction, isDigit d = true) ∧
        (∀ e ∈ exponent, e.2 ≠ [] ∧ ∀ d ∈ e.2, isDigit d = true) ∧ (fraction ≠ [] ∨ exponent.isSome))
      (reads : Numeral.readFloat (asciiString (floatText negative whole fraction exponent)) = .ok value)
  | string (bytes : List UInt8)
  | hex (bytes : List UInt8) (nonempty : bytes ≠ [])
  | binary (bytes : List UInt8)

namespace Lit

def render : Lit → List UInt8
  | .null => word "NULL"
  | .integer negative digits _ _ => signText negative ++ digits
  | .float negative whole fraction exponent _ _ _ => floatText negative whole fraction exponent
  | .string bytes => (stringToken bytes).render
  | .hex bytes _ => 0x30 :: 0x78 :: bytes.flatMap hexPair
  | .binary bytes => word "_binary " ++ (stringToken bytes).render

def content : Lit → Content
  | .null => .null
  | .integer negative digits _ _ =>
      .integer (Int64.ofInt (if negative then -(digitsValue digits : Int) else digitsValue digits))
  | .float _ _ _ _ value _ _ => .float value
  | .string bytes => .text { bytes := ⟨bytes.toArray⟩ }
  | .hex bytes _ => .text { bytes := ⟨bytes.toArray⟩ }
  | .binary bytes => .text { bytes := ⟨bytes.toArray⟩ }

end Lit

/-- A tuple: `(`, its literals separated by `,`, and `)`. -/
structure Tuple where
  items : List Lit

def renderItems : List Lit → List UInt8
  | [] => []
  | [l] => l.render
  | l :: rest => l.render ++ comma :: renderItems rest

def Tuple.render (t : Tuple) : List UInt8 := openParen :: renderItems t.items ++ [closeParen]

/-! ## Statements -/

/-- A table or database name: quoted by backticks, or a bare word. -/
inductive Ident where
  | quoted (name : List UInt8)
  | bare (name : List UInt8) (isWord : name ≠ [] ∧ ∀ b ∈ name, isWordByte b = true)

def Ident.name : Ident → List UInt8
  | .quoted name => name
  | .bare name _ => name

def Ident.render : Ident → List UInt8
  | .quoted name => (backtickToken name).render
  | .bare name _ => name

inductive Verb where
  | insert
  | replace

def Verb.word : Verb → String
  | .insert => "INSERT"
  | .replace => "REPLACE"

inductive Priority where
  | low
  | delayed
  | high

def Priority.word : Priority → String
  | .low => "LOW_PRIORITY"
  | .delayed => "DELAYED"
  | .high => "HIGH_PRIORITY"

def renderColumns : List (List UInt8) → List UInt8
  | [] => []
  | [c] => (backtickToken c).render
  | c :: rest => (backtickToken c).render ++ [comma, space] ++ renderColumns rest
where
  space : UInt8 := 0x20

/-- An `INSERT` or `REPLACE` statement: `INSERT [priority] [IGNORE] INTO [database.]table
[(columns)] VALUES t₁, …, tₙ;`, one blank between its words and blanks around the commas
between its tuples and before its `;`. -/
structure Insert where
  verb : Verb
  priority : Option Priority
  ignore : Bool
  database : Option Ident
  table : Ident
  columns : Option (List (List UInt8))
  singular : Bool
  first : Tuple
  rest : List (Blanks × Blanks × Tuple)
  final : Blanks

namespace Insert

def space : UInt8 := 0x20

def modifierWords (s : Insert) : List String :=
  (s.priority.map Priority.word).toList ++ (if s.ignore then ["IGNORE"] else []) ++ ["INTO"]

def keywords (s : Insert) : List UInt8 :=
  word s.verb.word ++ [space] ++ s.modifierWords.flatMap (fun m => word m ++ [space])

def qualifiedName (s : Insert) : List UInt8 :=
  (match s.database with
    | some d => d.render ++ [dot]
    | none => []) ++
    s.table.render

def header (s : Insert) : List UInt8 := s.keywords ++ s.qualifiedName

def columnList (s : Insert) : List UInt8 :=
  match s.columns with
  | some cs => openParen :: renderColumns cs ++ [closeParen, space]
  | none => []

def valuesWord (s : Insert) : String := if s.singular then "VALUE" else "VALUES"

def clause (s : Insert) : List UInt8 := space :: s.columnList ++ word s.valuesWord ++ [space]

def restText : List (Blanks × Blanks × Tuple) → List UInt8
  | [] => []
  | (before, after, t) :: rest => before.bytes ++ comma :: after.bytes ++ t.render ++ restText rest

def body (s : Insert) : List UInt8 :=
  s.first.render ++ restText s.rest ++ s.final.bytes ++ [semicolon]

def render (s : Insert) : List UInt8 := s.header ++ s.clause ++ s.body

def tuples (s : Insert) : List Tuple := s.first :: s.rest.map (·.2.2)

def into (s : Insert) (table : String) : Bool :=
  Statement.sameName ⟨s.table.name.toArray⟩ table.toUTF8

end Insert

/-- A piece of a statement that holds no rows: a byte outside quotes, or a quoted token. -/
inductive Piece where
  | byte (b : UInt8)
  | quoted (t : Quoted)

def Piece.render : Piece → List UInt8
  | .byte b => [b]
  | .quoted t => t.render

def Piece.Outside : Piece → Prop
  | .byte b => b ≠ semicolon ∧ b ≠ singleQuote ∧ b ≠ doubleQuote ∧ b ≠ backtick ∧ b ≠ hash
  | .quoted _ => True

/-- Two pieces that may follow one another: no `--` or `/*` outside quotes, and no quoted token
right after one with the same quote, which would read as a doubled quote. -/
def Piece.Precedes : Piece → Piece → Prop
  | .byte a, .byte b => ¬(a = minus ∧ b = minus) ∧ ¬(a = slash ∧ b = Bytes.star)
  | .quoted t, .quoted t' => t.quote ≠ t'.quote
  | _, _ => True

def Sequenced : List Piece → Prop
  | a :: b :: rest => a.Precedes b ∧ Sequenced (b :: rest)
  | _ => True

/-- A statement that holds no rows: it begins with a word, other than `INSERT` or `REPLACE`,
and its `;`, `#`, `--` and `/*` stand inside quotes only. -/
structure Other where
  pieces : List Piece
  first : ∃ b rest, pieces = .byte b :: rest ∧ isWordByte b = true
  outside : ∀ p ∈ pieces, p.Outside
  sequenced : Sequenced pieces
  notInsert : matchWord ⟨(pieces.flatMap Piece.render ++ [semicolon]).toArray⟩ 0 "INSERT" = false
  notReplace : matchWord ⟨(pieces.flatMap Piece.render ++ [semicolon]).toArray⟩ 0 "REPLACE" = false

def Other.render (s : Other) : List UInt8 := s.pieces.flatMap Piece.render ++ [semicolon]

/-! ## Scripts -/

/-- A part of a script. -/
inductive Item where
  | trivia (t : Trivia)
  | empty
  | other (s : Other)
  | insert (s : Insert)

def Item.render : Item → List UInt8
  | .trivia t => t.render
  | .empty => [semicolon]
  | .other s => s.render
  | .insert s => s.render

/-- The rows an item holds for `table`. -/
def Item.rows (table : String) : Item → List (List Content)
  | .insert s => if s.into table then s.tuples.map (·.items.map Lit.content) else []
  | _ => []

end Script

/-- A dump as a dump writer writes it. -/
structure Script where
  items : List Script.Item

namespace Script

def render (s : Script) : List UInt8 := s.items.flatMap Item.render

/-- The script as a buffer. -/
def bytes (s : Script) : ByteArray := ⟨s.render.toArray⟩

/-- The rows a script holds for `table`, in order. -/
def rows (s : Script) (table : String) : List (List Content) := s.items.flatMap (·.rows table)

def TuplesHaveWidth (s : Script) (table : String) (width : Nat) : Prop :=
  ∀ ins, Item.insert ins ∈ s.items → ins.into table = true → ∀ t ∈ ins.tuples, t.items.length = width

end Script

end WikiDump


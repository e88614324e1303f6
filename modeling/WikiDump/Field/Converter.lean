import WikiDump.Field.Datum
import WikiDump.Dump.Value
import WikiDump.Dump.Error
import WikiDump.Number.Binary64
/-!
# Reading literals into field values

A converter says how a column reads a literal of a dump. It checks the literal's kind first:
NULL where a value is required is refused as missing, any other wrong kind as `expected X,
found K`. Then it checks the value: an integer must fit the column's width, a boolean is 0 or 1,
text must be UTF-8, a title holds no space, a page type is one of three words, a timestamp has
one of two shapes and names a real second. An integer read as a double is rounded to the
nearest double. A nullable column reads NULL as an absent value and anything else as its
converter does.
-/

namespace WikiDump

/-- How a column reads a literal. -/
inductive Converter where
  | integer (kind : IntKind)
  /-- 0 or 1. -/
  | boolean
  /-- A double, from a float or an integer literal. -/
  | number
  /-- UTF-8 text of a kind. -/
  | text (kind : TextKind)
  /-- A title: UTF-8 text without spaces. -/
  | title
  /-- Any bytes of a text literal. -/
  | bytes
  /-- One of the page types. -/
  | pageType
  | timestamp
  /-- A timestamp or the word `infinity`. -/
  | expiry
  deriving Inhabited

namespace Converter

def kindError (c : Content) (want : String) : ConversionError :=
  match c with
  | .null => ⟨.missing, "", .typeConversion⟩
  | _ => ⟨.wrongKind, "expected " ++ want ++ ", found " ++ c.kind.name, .typeConversion⟩

def allDigits (b : ByteArray) : Bool := b.toList.all (fun x => 0x30 ≤ x && x ≤ 0x39)

def isSpacedShape (b : ByteArray) : Bool :=
  b.size == 19 &&
    (b.toList.zipIdx.all fun (x, i) =>
      if i = 4 ∨ i = 7 then x == 0x2D
      else if i = 10 then x == 0x20
      else if i = 13 ∨ i = 16 then x == 0x3A
      else 0x30 ≤ x && x ≤ 0x39)

def timestampError (b : ByteArray) (why : String) : ConversionError :=
  ⟨.format, Quoted.ofBytes b ++ ": " ++ why, .invalidTimestamp⟩

def readInstant (b : ByteArray) : Except ConversionError Instant :=
  let shape : Option Bool :=
    if b.size == 14 && allDigits b then some false
    else if isSpacedShape b then some true
    else none
  match shape with
  | none => .error (timestampError b "unrecognized layout")
  | some spaced =>
    match Instant.ofDigits (Utf8.decodeLossy b) spaced with
    | .ok t => .ok t
    | .error why => .error (timestampError b why)

def readText (c : Content) : Except ConversionError String :=
  match c with
  | .text t =>
    match Utf8.decode? t.bytes with
    | some s => .ok s
    | none => .error ⟨.encoding, "", .invalidUtf8⟩
  | _ => .error (kindError c "string")

/-- Reads a literal that is not to be taken as absent. -/
def read : Converter → Content → Except ConversionError Datum
  | .integer k, c =>
    match c with
    | .integer n =>
      if k.fits n.toInt then .ok (.int k (k.wrap n.toInt))
      else .error ⟨.outOfRange, toString n.toInt ++ " does not fit in " ++ k.name, .typeConversion⟩
    | _ => .error (kindError c "integer")
  | .boolean, c =>
    match c with
    | .integer n =>
      if n.toInt = 0 then .ok (.bool false)
      else if n.toInt = 1 then .ok (.bool true)
      else .error ⟨.outOfRange, toString n.toInt ++ " is not a boolean", .typeConversion⟩
    | _ => .error (kindError c "0 or 1")
  | .number, c =>
    match c with
    | .float x => if x.isNaN then .error ⟨.outOfRange, "NaN", .typeConversion⟩ else .ok (.float x)
    | .integer n => .ok (.float (Binary64.ofInt n.toInt))
    | _ => .error (kindError c "number")
  | .text k, c => (readText c).map (.text k)
  | .title, c =>
    match readText c with
    | .error e => .error e
    | .ok s =>
      if s.toList.contains ' ' then .error ⟨.format, "title contains a space", .typeConversion⟩
      else .ok (.text .title s)
  | .bytes, c =>
    match c with
    | .text t => .ok (.blob t.bytes)
    | _ => .error (kindError c "string")
  | .pageType, c =>
    match readText c with
    | .error e => .error e
    | .ok s =>
      if TextKind.pageTypes.contains s then .ok (.text .pageType s)
      else .error ⟨.unknownEnum, "page type " ++ Quoted.ofString s, .typeConversion⟩
  | .timestamp, c =>
    match c with
    | .text t => (readInstant t.bytes).map .instant
    | _ => .error (kindError c "timestamp string")
  | .expiry, c =>
    match c with
    | .text t =>
      if t.bytes.toList == "infinity".toUTF8.toList then .ok (.expiry none)
      else (readInstant t.bytes).map (fun i => .expiry (some i))
    | _ => .error (kindError c "timestamp string")

def convert (conv : Converter) (nullable : Bool) (c : Content) : Except ConversionError Datum :=
  match c with
  | .null => if nullable then .ok .absent else conv.read c
  | _ => conv.read c

end Converter

end WikiDump


import WikiDump.Text.Utf8
import WikiDump.Text.Quoted
import WikiDump.Number.Notation
/-!
# Literal values

A literal of a dump is NULL, a 64-bit integer, a double, or text. Text is a byte string that
need not be UTF-8. Text that was taken from the buffer as it stands remembers where its bytes
start there; text that had to be rebuilt (escapes, doubled quotes, hexadecimal digits, bytes
that are not UTF-8) does not. Every value remembers the offset of its literal.
-/

namespace WikiDump

/-- The bytes of a text literal, and where they start in the buffer when they were taken from
it unchanged. -/
structure Text where
  bytes : ByteArray
  origin : Option Nat := none
  deriving Inhabited

namespace Text

def isUtf8 (t : Text) : Bool := Utf8.isValid t.bytes

def isBorrowed (t : Text) : Bool := t.origin.isSome

end Text

/-- The kinds of literal. -/
inductive Kind where
  | null
  | integer
  | float
  | text
  deriving Repr, BEq, DecidableEq, Inhabited

namespace Kind

def all : List Kind := [.null, .integer, .float, .text]

def name : Kind → String
  | .null => "null"
  | .integer => "integer"
  | .float => "float"
  | .text => "text"

def nameOfCode (n : Nat) : String :=
  match all[n]? with
  | some k => k.name
  | none => "kind(" ++ toString n ++ ")"

end Kind

/-- What a literal holds. -/
inductive Content where
  | null
  | integer (n : Int64)
  | float (x : Float)
  | text (t : Text)
  deriving Inhabited

/-- A literal value and the offset of its literal in the buffer. -/
structure Value where
  content : Content
  offset : Nat
  deriving Inhabited

namespace Content

def kind : Content → Kind
  | .null => .null
  | .integer _ => .integer
  | .float _ => .float
  | .text _ => .text

/-- How a literal is shown in messages: `NULL`, the number, or the text quoted, cut after 64
bytes and marked `...` when longer. -/
def raw : Content → String
  | .null => "NULL"
  | .integer n => toString n.toInt
  | .float x => Notation.ofFloat x
  | .text t =>
    let shown := if t.bytes.size > 64 then t.bytes.extract 0 64 ++ "...".toUTF8 else t.bytes
    Quoted.ofBytes shown

def rawOfCode (n : Nat) : String :=
  match Kind.all[n]? with
  | some .null => raw .null
  | some .integer => raw (.integer 0)
  | some .float => raw (.float 0)
  | some .text => raw (.text {bytes := ByteArray.empty})
  | none => Kind.nameOfCode n

end Content

namespace Value

def kind (v : Value) : Kind := v.content.kind

def raw (v : Value) : String := v.content.raw

/-- The same value moved `d` bytes further into a buffer. -/
def shift (d : Nat) (v : Value) : Value :=
  let content := match v.content with
    | .text t => .text { t with origin := t.origin.map (· + d) }
    | c => c
  ⟨content, v.offset + d⟩

end Value

end WikiDump


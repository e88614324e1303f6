/-!
# Byte classes of dump text

A dump is read as bytes. Words (keywords, identifiers, unquoted literals) are made of word
bytes: ASCII letters and digits, `_`, `$`, and every byte of a multi-byte UTF-8 sequence.
Blanks are the six ASCII spaces. Every scanning step here moves a position forward through the
buffer and stops at its end, so each loop ends by the distance to the end.
-/

namespace WikiDump.Bytes

def at? (buf : ByteArray) (i : Nat) : Option UInt8 :=
  if h : i < buf.size then some buf[i] else none

def atIs (buf : ByteArray) (i : Nat) (p : UInt8 → Bool) : Bool :=
  match at? buf i with
  | some b => p b
  | none => false

def atEq (buf : ByteArray) (i : Nat) (b : UInt8) : Bool := atIs buf i (· == b)

def isDigit (b : UInt8) : Bool := 0x30 ≤ b && b ≤ 0x39

def isHexDigit (b : UInt8) : Bool :=
  isDigit b || (0x61 ≤ b && b ≤ 0x66) || (0x41 ≤ b && b ≤ 0x46)

def isWordByte (b : UInt8) : Bool :=
  b == 0x5F || b == 0x24 || isDigit b || (0x61 ≤ (b ||| 0x20) && (b ||| 0x20) ≤ 0x7A) || b ≥ 0x80

/-- One of the six ASCII blanks: space, tab, line feed, carriage return, form feed and
vertical tab. -/
def isSpace (b : UInt8) : Bool :=
  b == 0x20 || b == 0x09 || b == 0x0A || b == 0x0D || b == 0x0C || b == 0x0B

def skipWhile (p : UInt8 → Bool) (buf : ByteArray) (i : Nat) : Nat :=
  if h : i < buf.size then
    if p buf[i] then skipWhile p buf (i + 1) else i
  else i
termination_by buf.size - i

theorem le_skipWhile (p : UInt8 → Bool) (buf : ByteArray) (i : Nat) : i ≤ skipWhile p buf i := by
  unfold skipWhile
  split
  · split
    · exact Nat.le_trans (Nat.le_succ i) (le_skipWhile p buf (i + 1))
    · exact Nat.le_refl i
  · exact Nat.le_refl i
termination_by buf.size - i

theorem skipWhile_le_size (p : UInt8 → Bool) (buf : ByteArray) (i : Nat) (h : i ≤ buf.size) :
    skipWhile p buf i ≤ buf.size := by
  unfold skipWhile
  split
  · split
    · exact skipWhile_le_size p buf (i + 1) (by omega)
    · exact h
  · exact h
termination_by buf.size - i

def skipSpace (buf : ByteArray) (i : Nat) : Nat := skipWhile isSpace buf i

def foldByte (b : UInt8) : UInt8 := b ||| 0x20

/-- Whether `word` (ASCII letters and `_`) stands at `pos`, in any letter case, and is not
followed by a word byte. -/
def matchWord (buf : ByteArray) (pos : Nat) (word : String) : Bool :=
  let bytes := word.toUTF8
  pos + bytes.size ≤ buf.size &&
    (List.range bytes.size).all (fun k =>
      match at? buf (pos + k), at? bytes k with
      | some a, some b => foldByte a == foldByte b
      | _, _ => false) &&
    !(atIs buf (pos + bytes.size) isWordByte)

def find? (buf : ByteArray) (pattern : ByteArray) (i : Nat) : Option Nat :=
  if i + pattern.size ≤ buf.size then
    if (List.range pattern.size).all (fun k => at? buf (i + k) == at? pattern k) then some i
    else find? buf pattern (i + 1)
  else none
termination_by buf.size + 1 - i

/-- Whether a byte string contains `pattern` from position `i` on. -/
def contains (buf : ByteArray) (pattern : ByteArray) : Bool := (find? buf pattern 0).isSome

/-! Named bytes of the dump grammar. -/

def singleQuote : UInt8 := 0x27
def doubleQuote : UInt8 := 0x22
def backtick : UInt8 := 0x60
def backslash : UInt8 := 0x5C
def openParen : UInt8 := 0x28
def closeParen : UInt8 := 0x29
def comma : UInt8 := 0x2C
def semicolon : UInt8 := 0x3B
def dot : UInt8 := 0x2E
def minus : UInt8 := 0x2D
def plus : UInt8 := 0x2B
def underscore : UInt8 := 0x5F
def hash : UInt8 := 0x23
def slash : UInt8 := 0x2F
def star : UInt8 := 0x2A
def newline : UInt8 := 0x0A

end WikiDump.Bytes


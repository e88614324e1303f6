import WikiDump.Text.Printable
import WikiDump.Text.Quoted
/-!
# Hexadecimal text

Bytes written as two lowercase hexadecimal digits each, and read back from digits of either
case.

Reading goes pair by pair and reports the first byte that is no digit, the first of a pair
before the second. A text of odd length whose pairs are all digits is refused for its length,
unless its last byte is no digit either: that byte is the earlier fault and is reported.
-/

namespace WikiDump.Hex

def digit (n : Nat) : Char := if n < 10 then Char.ofNat (48 + n) else Char.ofNat (87 + n)

def encode (bytes : ByteArray) : String :=
  bytes.foldl (fun acc b => (acc.push (digit (b.toNat / 16))).push (digit (b.toNat % 16))) ""

def value? (b : UInt8) : Option Nat :=
  if 0x30 ≤ b ∧ b ≤ 0x39 then some (b.toNat - 0x30)
  else if 0x61 ≤ b ∧ b ≤ 0x66 then some (b.toNat - 0x57)
  else if 0x41 ≤ b ∧ b ≤ 0x46 then some (b.toNat - 0x37)
  else none

/-- Why hexadecimal text was refused. -/
inductive DecodeError where
  /-- A byte that is no hexadecimal digit. -/
  | invalidByte (b : UInt8)
  /-- An odd number of digits. -/
  | oddLength
  deriving Repr, BEq, Inhabited

/-- A code point as `U+XXXX` (uppercase, at least four digits), followed by the character in
single quotes when it is printable. -/
def codePoint (c : Char) : String :=
  let digits := (Quoted.hexPadded 4 c.toNat).toUpper
  if Printable.isPrintable c then "U+" ++ digits ++ " '" ++ c.toString ++ "'" else "U+" ++ digits

def DecodeError.message : DecodeError → String
  | .invalidByte b => "encoding/hex: invalid byte: " ++ codePoint (Char.ofNat b.toNat)
  | .oddLength => "encoding/hex: odd length hex string"

def decodeBytes : List UInt8 → ByteArray → Except DecodeError ByteArray
  | [], out => .ok out
  | [a], _ => if (value? a).isSome then .error .oddLength else .error (.invalidByte a)
  | a :: b :: rest, out =>
    match value? a, value? b with
    | some x, some y => decodeBytes rest (out.push (UInt8.ofNat (x * 16 + y)))
    | none, _ => .error (.invalidByte a)
    | some _, none => .error (.invalidByte b)

/-- The bytes written by a hexadecimal text. -/
def decode (s : String) : Except DecodeError ByteArray := decodeBytes s.toUTF8.toList ByteArray.empty

def decode? (s : String) : Option ByteArray := (decode s).toOption

end WikiDump.Hex


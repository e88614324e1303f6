import WikiDump.Text.Utf8
import WikiDump.Text.Printable
/-!
# Quoted text

Error messages and diagnostics show bytes as a double-quoted literal: printable characters
stand for themselves, `"` and `\` take a backslash, the seven control characters with a letter
escape use it (`\a \b \f \n \r \t \v`), other characters below `U+0020` and `U+007F` are
written `\xHH`, other characters below `U+10000` `\uHHHH`, and the rest `\UHHHHHHHH`. A byte
that starts no well-formed UTF-8 sequence is written `\xHH`, one byte at a time.
-/

namespace WikiDump.Quoted

def hexPadded (width n : Nat) : String :=
  let digits := Nat.toDigits 16 n
  String.ofList (List.replicate (width - digits.length) '0' ++ digits)

def escapeChar (c : Char) : String :=
  if c = '"' ∨ c = '\\' then "\\" ++ c.toString
  else if Printable.isPrintable c then c.toString
  else if c = '\x07' then "\\a"
  else if c = '\x08' then "\\b"
  else if c = '\x0c' then "\\f"
  else if c = '\n' then "\\n"
  else if c = '\r' then "\\r"
  else if c = '\t' then "\\t"
  else if c = '\x0b' then "\\v"
  else if c.toNat < 0x20 ∨ c.toNat = 0x7F then "\\x" ++ hexPadded 2 c.toNat
  else if c.toNat < 0x10000 then "\\u" ++ hexPadded 4 c.toNat
  else "\\U" ++ hexPadded 8 c.toNat

def escapeBytesFrom (bytes : ByteArray) (i : Nat) (acc : String) : String :=
  if h : i < bytes.size then
    match hd : Utf8.decodeAt? bytes i with
    | some (c, w) =>
      have : 0 < w := Utf8.decodeAt?_width_pos hd
      escapeBytesFrom bytes (i + w) (acc ++ escapeChar c)
    | none => escapeBytesFrom bytes (i + 1) (acc ++ "\\x" ++ hexPadded 2 bytes[i].toNat)
  else acc
termination_by bytes.size - i

def ofBytes (bytes : ByteArray) : String := escapeBytesFrom bytes 0 "\"" ++ "\""

def ofString (s : String) : String :=
  s.foldl (fun acc c => acc ++ escapeChar c) "\"" ++ "\""

end WikiDump.Quoted


import WikiDump.Text.Utf8
/-!
# YAML input

A YAML stream is read as characters. Its first bytes choose the encoding: the byte order marks
`FF FE` and `FE FF` choose UTF-16 in that byte order, and anything else is UTF-8, whose byte
order mark `EF BB BF` is dropped. A malformed encoding is refused, and so is every character
outside the set YAML allows: tab, line feed, carriage return, `U+0020` to `U+007E`, `U+0085`,
`U+00A0` to `U+D7FF`, `U+E000` to `U+FFFD` and the planes above.

A refusal names no line, since it is found before any line is counted.

Reading works on the characters with a sentinel: past the last character every position holds
`U+0000`, which the allowed set excludes, so the sentinel marks the end of the stream.
-/

namespace WikiDump.Yaml

/-- A problem in a YAML stream, with the line messages give for it (zero for none). -/
structure YamlError where
  line : Nat
  problem : String
  deriving Inhabited, Repr

def YamlError.message (e : YamlError) : String :=
  "yaml: " ++ (if e.line = 0 then "" else "line " ++ toString e.line ++ ": ") ++ e.problem

def inputError (problem : String) : YamlError := ⟨0, problem⟩

def isAllowed (n : Nat) : Bool :=
  n = 0x09 || n = 0x0A || n = 0x0D || (0x20 ≤ n && n ≤ 0x7E) || n = 0x85 ||
    (0xA0 ≤ n && n ≤ 0xD7FF) || (0xE000 ≤ n && n ≤ 0xFFFD) || (0x10000 ≤ n && n ≤ 0x10FFFF)

def pushAllowed (acc : Array Char) (n : Nat) : Except YamlError (Array Char) :=
  if isAllowed n then .ok (acc.push (Char.ofNat n))
  else .error (inputError "control characters are not allowed")

def byteAt (bytes : ByteArray) (i : Nat) : Nat := (Utf8.byteAt? bytes i).getD 0 |>.toNat

def utf8Width (lead : Nat) : Nat :=
  if lead &&& 0x80 = 0 then 1
  else if lead &&& 0xE0 = 0xC0 then 2
  else if lead &&& 0xF0 = 0xE0 then 3
  else if lead &&& 0xF8 = 0xF0 then 4
  else 0

def leadBits (lead width : Nat) : Nat :=
  if width = 1 then lead &&& 0x7F
  else if width = 2 then lead &&& 0x1F
  else if width = 3 then lead &&& 0x0F
  else lead &&& 0x07

/-- Adds `k` continuation bytes from `i` to `value`; a byte that does not continue a sequence
is refused. -/
def continuation (bytes : ByteArray) (i : Nat) : Nat → Nat → Except YamlError Nat
  | 0, value => .ok value
  | k + 1, value =>
    let b := byteAt bytes i
    if b &&& 0xC0 != 0x80 then .error (inputError "invalid trailing UTF-8 octet")
    else continuation bytes (i + 1) k ((value <<< 6) + (b &&& 0x3F))

def decodeUtf8 (bytes : ByteArray) : Nat → Nat → Array Char → Except YamlError (Array Char)
  | 0, _, acc => .ok acc
  | fuel + 1, i, acc =>
    if i < bytes.size then
      let lead := byteAt bytes i
      let width := utf8Width lead
      if width = 0 then .error (inputError "invalid leading UTF-8 octet")
      else if i + width > bytes.size then .error (inputError "incomplete UTF-8 octet sequence")
      else
        match continuation bytes (i + 1) (width - 1) (leadBits lead width) with
        | .error e => .error e
        | .ok value =>
          let shortest := width = 1 ∨ (width = 2 ∧ value ≥ 0x80) ∨ (width = 3 ∧ value ≥ 0x800) ∨
            (width = 4 ∧ value ≥ 0x10000)
          if ¬shortest then .error (inputError "invalid length of a UTF-8 sequence")
          else if (0xD800 ≤ value ∧ value ≤ 0xDFFF) ∨ value > 0x10FFFF then
            .error (inputError "invalid Unicode character")
          else
            match pushAllowed acc value with
            | .error e => .error e
            | .ok acc => decodeUtf8 bytes fuel (i + width) acc
    else .ok acc

def unitAt (bytes : ByteArray) (little : Bool) (i : Nat) : Nat :=
  if little then byteAt bytes i + 256 * byteAt bytes (i + 1)
  else 256 * byteAt bytes i + byteAt bytes (i + 1)

def decodeUtf16 (bytes : ByteArray) (little : Bool) : Nat → Nat → Array Char →
    Except YamlError (Array Char)
  | 0, _, acc => .ok acc
  | fuel + 1, i, acc =>
    if i < bytes.size then
      if i + 2 > bytes.size then .error (inputError "incomplete UTF-16 character")
      else
        let unit := unitAt bytes little i
        if unit &&& 0xFC00 = 0xDC00 then .error (inputError "unexpected low surrogate area")
        else if unit &&& 0xFC00 = 0xD800 then
          if i + 4 > bytes.size then .error (inputError "incomplete UTF-16 surrogate pair")
          else
            let low := unitAt bytes little (i + 2)
            if low &&& 0xFC00 != 0xDC00 then .error (inputError "expected low surrogate area")
            else
              match pushAllowed acc (0x10000 + ((unit &&& 0x3FF) <<< 10) + (low &&& 0x3FF)) with
              | .error e => .error e
              | .ok acc => decodeUtf16 bytes little fuel (i + 4) acc
        else
          match pushAllowed acc unit with
          | .error e => .error e
          | .ok acc => decodeUtf16 bytes little fuel (i + 2) acc
    else .ok acc

def decodeInput (bytes : ByteArray) : Except YamlError (Array Char) :=
  let b0 := byteAt bytes 0
  let b1 := byteAt bytes 1
  let b2 := byteAt bytes 2
  let fuel := bytes.size + 1
  if bytes.size ≥ 2 ∧ b0 = 0xFF ∧ b1 = 0xFE then decodeUtf16 bytes true fuel 2 #[]
  else if bytes.size ≥ 2 ∧ b0 = 0xFE ∧ b1 = 0xFF then decodeUtf16 bytes false fuel 2 #[]
  else if bytes.size ≥ 3 ∧ b0 = 0xEF ∧ b1 = 0xBB ∧ b2 = 0xBF then decodeUtf8 bytes fuel 3 #[]
  else decodeUtf8 bytes fuel 0 #[]

/-! ### Character classes -/

def openBrace : Char := '\x7b'

def closeBrace : Char := '\x7d'

def backtick : Char := '\x60'

def isBlank (c : Char) : Bool := c = ' ' || c = '\t'

def isBreak (c : Char) : Bool :=
  c = '\r' || c = '\n' || c = '\u0085' || c = '\u2028' || c = '\u2029'

def isBreakOrEnd (c : Char) : Bool := isBreak c || c = '\x00'

def isBlankOrEnd (c : Char) : Bool := isBlank c || isBreakOrEnd c

def isWordChar (c : Char) : Bool :=
  ('0' ≤ c && c ≤ '9') || ('A' ≤ c && c ≤ 'Z') || ('a' ≤ c && c ≤ 'z') || c = '_' || c = '-'

def hexDigit? (c : Char) : Option Nat :=
  if '0' ≤ c ∧ c ≤ '9' then some (c.toNat - '0'.toNat)
  else if 'a' ≤ c ∧ c ≤ 'f' then some (c.toNat - 'a'.toNat + 10)
  else if 'A' ≤ c ∧ c ≤ 'F' then some (c.toNat - 'A'.toNat + 10)
  else none

end WikiDump.Yaml


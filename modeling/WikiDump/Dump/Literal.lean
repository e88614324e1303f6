import WikiDump.Dump.Error
import WikiDump.Dump.Value
import WikiDump.Number.Reading
/-!
# Reading literals

The literals of an `INSERT` tuple:

* `NULL`, in any letter case, not followed by a word byte;
* integers `[+-]?D+` within 64 bits, and floats `[+-]?D+(.D+)?([eE][+-]?D+)?` with a fraction
  or an exponent, whose value is a finite double; a number must not run on into a word byte,
  `.`, `+` or `-`;
* single-quoted strings with backslash escapes and doubled quotes, optionally after a charset
  introducer `_word` and blanks;
* hexadecimal text `0x…` and `x'…'`, an odd digit count taking a leading zero.

A string without escapes whose body is well-formed UTF-8 is the buffer's own bytes; all other
text is rebuilt. Quoted tokens in general (strings, quoted names, backtick identifiers) are
skipped by one rule: inside `'…'` and `"…"` a backslash escapes the next byte, and in all three
a doubled quote stands for itself.
-/

namespace WikiDump.Literal

open Bytes

/-- Moves past a quoted token whose opening `quote` came before `i`: returns the position after
the closing quote, or the error at a trailing backslash or at the end of the buffer. -/
def skipQuotedFrom (buf : ByteArray) (quote : UInt8) (i : Nat) : Except ScanError Nat :=
  if h : i < buf.size then
    let c := buf[i]
    if c == backslash && quote != backtick then
      if i + 1 < buf.size then skipQuotedFrom buf quote (i + 2)
      else .error (.lexical .invalidEscape i "" "trailing backslash")
    else if c == quote then
      if atEq buf (i + 1) quote then skipQuotedFrom buf quote (i + 2) else .ok (i + 1)
    else skipQuotedFrom buf quote (i + 1)
  else .error (ScanError.endOfInput i ("closing " ++ (Char.ofNat quote.toNat).toString))
termination_by buf.size - i

def skipQuoted (buf : ByteArray) (pos : Nat) : Except ScanError Nat :=
  match at? buf pos with
  | some quote => skipQuotedFrom buf quote (pos + 1)
  | none => .error (ScanError.endOfInput pos "quote")

def skipQuotedChecked (buf : ByteArray) (pos : Int) : Except Fault (Except ScanError Nat) :=
  if 0 ≤ pos ∧ pos < buf.size then .ok (skipQuoted buf pos.toNat)
  else .error (.bounds .index pos buf.size)

def appendEscape (out : ByteArray) (e : UInt8) : ByteArray :=
  if e == 0x30 then out.push 0
  else if e == 0x62 then out.push 0x08
  else if e == 0x6E then out.push 0x0A
  else if e == 0x72 then out.push 0x0D
  else if e == 0x74 then out.push 0x09
  else if e == 0x5A then out.push 0x1A
  else if e == 0x25 || e == underscore then (out.push backslash).push e
  else out.push e

def unescapeFrom (buf : ByteArray) (start : Nat) (i : Nat) (out : ByteArray) :
    Except ScanError (Value × Nat) :=
  if h : i < buf.size then
    let c := buf[i]
    if c == backslash then
      match hn : at? buf (i + 1) with
      | some e => unescapeFrom buf start (i + 2) (appendEscape out e)
      | none => .error (.lexical .invalidEscape i "" "trailing backslash")
    else if c == singleQuote then
      if atEq buf (i + 1) singleQuote then unescapeFrom buf start (i + 2) (out.push singleQuote)
      else .ok (⟨.text { bytes := out }, start⟩, i + 1 - start)
    else unescapeFrom buf start (i + 1) (out.push c)
  else .error (ScanError.endOfInput i "closing quote")
termination_by buf.size - i

/-- Reads the body of a string whose quote is at `opening`, for a literal that began at
`start`: the bytes stay borrowed until an escape or a doubled quote forces a rebuild. -/
def stringFrom (buf : ByteArray) (start opening : Nat) (i : Nat) :
    Except ScanError (Value × Nat) :=
  if h : i < buf.size then
    let c := buf[i]
    if c == backslash then unescapeFrom buf start i (buf.extract (opening + 1) i)
    else if c == singleQuote then
      if atEq buf (i + 1) singleQuote then unescapeFrom buf start i (buf.extract (opening + 1) i)
      else
        let body := buf.extract (opening + 1) i
        let text : Text :=
          if Utf8.isValid body then { bytes := body, origin := some (opening + 1) }
          else { bytes := body }
        .ok (⟨.text text, start⟩, i + 1 - start)
    else stringFrom buf start opening (i + 1)
  else .error (ScanError.endOfInput i "closing quote")
termination_by buf.size - i

def readString (buf : ByteArray) (start opening : Nat) : Except ScanError (Value × Nat) :=
  stringFrom buf start opening (opening + 1)

/-- Where the text of a malformed number ends: word bytes, `.`, `+` and `-` from `e` on, while
the text from `start` is shorter than 64 bytes. -/
def numberTextEnd (buf : ByteArray) (start : Nat) (e : Nat) : Nat :=
  if h : e < buf.size then
    let c := buf[e]
    if e - start < 64 && (isWordByte c || c == dot || c == minus || c == plus) then
      numberTextEnd buf start (e + 1)
    else e
  else e
termination_by buf.size - e

def numberError (buf : ByteArray) (start at_ : Nat) : ScanError :=
  .lexical .invalidNumber start "" (Quoted.ofBytes (buf.extract start (numberTextEnd buf start at_)))

def asciiText (bytes : ByteArray) : String := Utf8.decodeLossy bytes

def readNumber (buf : ByteArray) (pos : Nat) : Except ScanError (Value × Nat) :=
  let afterSign := if atEq buf pos minus || atEq buf pos plus then pos + 1 else pos
  let digitsEnd := skipWhile isDigit buf afterSign
  if digitsEnd = afterSign then
    if afterSign ≥ buf.size then .error (ScanError.endOfInput afterSign "digits")
    else .error (numberError buf pos afterSign)
  else
    -- An optional fraction.
    let fraction : Except ScanError (Nat × Bool) :=
      if atEq buf digitsEnd dot then
        let e := skipWhile isDigit buf (digitsEnd + 1)
        if e = digitsEnd + 1 then .error (numberError buf pos (digitsEnd + 1)) else .ok (e, true)
      else .ok (digitsEnd, false)
    match fraction with
    | .error err => .error err
    | .ok (i, hasFraction) =>
      -- An optional exponent.
      let exponent : Except ScanError (Nat × Bool) :=
        if atEq buf i 0x65 || atEq buf i 0x45 then
          let j := if atEq buf (i + 1) minus || atEq buf (i + 1) plus then i + 2 else i + 1
          let e := skipWhile isDigit buf j
          if e = j then .error (numberError buf pos j) else .ok (e, true)
        else .ok (i, false)
      match exponent with
      | .error err => .error err
      | .ok (i, hasExponent) =>
        if atIs buf i (fun c => isWordByte c || c == dot || c == minus || c == plus) then
          .error (numberError buf pos i)
        else
          let text := asciiText (buf.extract pos i)
          if hasFraction || hasExponent then
            match Numeral.readFloat text with
            | .ok x => .ok (⟨.float x, pos⟩, i - pos)
            | .error _ => .error (numberError buf pos pos)
          else
            match Numeral.readInt text 64 with
            | .ok n => .ok (⟨.integer (Int64.ofInt n), pos⟩, i - pos)
            | .error _ => .error (numberError buf pos pos)

def nibble (c : UInt8) : UInt8 :=
  if isDigit c then c - 0x30
  else if 0x61 ≤ c && c ≤ 0x66 then c - 0x61 + 10
  else c - 0x41 + 10

def decodeHexPairs : List UInt8 → ByteArray → ByteArray
  | a :: b :: rest, out => decodeHexPairs rest (out.push ((nibble a <<< 4) ||| nibble b))
  | _, out => out

def decodeHex (digits : List UInt8) : ByteArray :=
  match digits with
  | d :: rest => if digits.length % 2 = 1 then decodeHexPairs rest (ByteArray.empty.push (nibble d))
      else decodeHexPairs digits ByteArray.empty
  | [] => ByteArray.empty

def readHex (buf : ByteArray) (pos : Nat) : Except ScanError (Value × Nat) :=
  let i := skipWhile isHexDigit buf (pos + 2)
  if i = pos + 2 || atIs buf i isWordByte then .error (numberError buf pos i)
  else
    let out := decodeHex (buf.extract (pos + 2) i).toList
    .ok (⟨.text { bytes := out }, pos⟩, i - pos)

def readQuotedHex (buf : ByteArray) (pos : Nat) : Except ScanError (Value × Nat) :=
  let i := skipWhile isHexDigit buf (pos + 2)
  if i ≥ buf.size then .error (ScanError.endOfInput i "closing quote")
  else if !atEq buf i singleQuote then .error (numberError buf pos i)
  else
    let out := decodeHex (buf.extract (pos + 2) i).toList
    .ok (⟨.text { bytes := out }, pos⟩, i + 1 - pos)

def readIntroduced (buf : ByteArray) (pos : Nat) : Except ScanError (Value × Nat) :=
  let wordEnd := skipWhile isWordByte buf (pos + 1)
  if wordEnd = pos + 1 then .error (ScanError.unexpected buf pos "literal")
  else
    let i := skipSpace buf wordEnd
    if i ≥ buf.size then .error (ScanError.endOfInput i "string after charset introducer")
    else if !atEq buf i singleQuote then
      .error (ScanError.unexpected buf i "string after charset introducer")
    else readString buf pos i

/-- Reads the literal at `pos`: its value and the number of bytes it takes. -/
def read (buf : ByteArray) (pos : Nat) : Except ScanError (Value × Nat) :=
  match at? buf pos with
  | none => .error (ScanError.endOfInput pos "literal")
  | some c =>
    if c == singleQuote then readString buf pos pos
    else if (c == 0x4E || c == 0x6E) && matchWord buf pos "NULL" then .ok (⟨.null, pos⟩, 4)
    else if c == 0x30 && (atEq buf (pos + 1) 0x78 || atEq buf (pos + 1) 0x58) then readHex buf pos
    else if (c == 0x78 || c == 0x58) && atEq buf (pos + 1) singleQuote then readQuotedHex buf pos
    else if c == minus || c == plus || isDigit c then readNumber buf pos
    else if c == underscore then readIntroduced buf pos
    else .error (ScanError.unexpected buf pos "literal")

def readChecked (buf : ByteArray) (pos : Int) : Except Fault (Except ScanError (Value × Nat)) :=
  if pos < 0 then .error (.bounds .index pos buf.size) else .ok (read buf pos.toNat)

end WikiDump.Literal


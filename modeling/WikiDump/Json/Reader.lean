import WikiDump.Json.Value
import WikiDump.Text.Utf8
/-!
# Reading JSON

JSON text is read with the grammar of RFC 8259. The first character that breaks the grammar is
reported as an invalid character together with what was being read there ("looking for
beginning of value", "after object key", "in string", "in numeric literal", …); it is shown
quoted, or as its byte in hexadecimal when the byte starts no UTF-8 sequence. An escape that
JSON does not have is reported with its bytes: two of them, or six for a `\u` escape. Input
that ends inside a value is "unexpected end of JSON input". Strings are decoded, with `\u`
escapes joined into surrogate pairs where they form one; an escape of a lone surrogate and a
byte that is not UTF-8 read as `U+FFFD`. Numbers keep their text.
-/

namespace WikiDump

namespace Json

def quoteChar (c : Char) : String :=
  if c = '\'' then "'\\''"
  else if c = '"' then "'\"'"
  else "'" ++ Quoted.escapeChar c ++ "'"

/-- The character that starts at `i`, quoted; a byte that starts no UTF-8 sequence is shown in
hexadecimal. -/
def quoteAt (buf : ByteArray) (i : Nat) : String :=
  match Utf8.decodeAt? buf i with
  | some (c, _) => quoteChar c
  | none => "'\\x" ++ Quoted.hexPadded 2 (buf[i]?.getD 0).toNat ++ "'"

/-- Whether an escape sequence has to be shown as a quoted string rather than between backticks:
it holds a backtick, a blank, a character that does not print or bytes that are not UTF-8. -/
def escapeNeedsQuotes (sequence : ByteArray) : Bool :=
  (Utf8.decodeLossy sequence).any fun c =>
    c = '\x60' || c = ' ' || c = '\uFFFD' || !Printable.isPrintable c

/-- Why JSON text was refused. -/
inductive ReadError where
  /-- The character at `offset`, quoted as `found`, cannot stand there; `context` says what was
  being read. -/
  | invalid (found : String) (context : String) (offset : Nat)
  /-- The escape sequence at `offset` inside a string is not one JSON has. -/
  | badEscape (sequence : ByteArray) (offset : Nat)
  /-- The text ended inside a value. -/
  | unexpectedEnd
  deriving Inhabited

def ReadError.message : ReadError → String
  | .invalid found context _ => "invalid character " ++ found ++ " " ++ context
  | .badEscape sequence _ =>
    let shown :=
      if escapeNeedsQuotes sequence then Quoted.ofBytes sequence
      else "`" ++ Utf8.decodeLossy sequence ++ "`"
    "invalid escape sequence " ++ shown ++ " in string"
  | .unexpectedEnd => "unexpected end of JSON input"

def invalidAt (buf : ByteArray) (i : Nat) (context : String) : ReadError :=
  .invalid (quoteAt buf i) context i

def isBlank (b : UInt8) : Bool := b == 0x20 || b == 0x09 || b == 0x0A || b == 0x0D

def skipBlanks (buf : ByteArray) (i : Nat) : Nat :=
  if h : i < buf.size then
    if isBlank buf[i] then skipBlanks buf (i + 1) else i
  else i
termination_by buf.size - i

def expectAt (buf : ByteArray) (i : Nat) : Except ReadError UInt8 :=
  if h : i < buf.size then .ok buf[i] else .error .unexpectedEnd

def hexValue? (b : UInt8) : Option Nat :=
  if 0x30 ≤ b && b ≤ 0x39 then some (b - 0x30).toNat
  else if 0x61 ≤ b && b ≤ 0x66 then some (b - 0x61 + 10).toNat
  else if 0x41 ≤ b && b ≤ 0x46 then some (b - 0x41 + 10).toNat
  else none

def hex4? (buf : ByteArray) (i : Nat) : Option Nat := do
  let a ← hexValue? (← buf[i]?)
  let b ← hexValue? (← buf[i + 1]?)
  let c ← hexValue? (← buf[i + 2]?)
  let d ← hexValue? (← buf[i + 3]?)
  pure (((a * 16 + b) * 16 + c) * 16 + d)

/-- Whether the bytes from `i` to the end could begin a `\u` escape: a backslash, a `u` and
hexadecimal digits, as many as there are. -/
def escapePrefixFrom (buf : ByteArray) (i : Nat) : Bool :=
  (List.range (buf.size - i)).all fun k =>
    match buf[i + k]? with
    | some b =>
      if k = 0 then b == 0x5C
      else if k = 1 then b == 0x75
      else (hexValue? b).isSome
    | none => true

/-- The `\u` escape at `i`: its code unit, or why it is refused. Input that ends where the
escape could still be completed ends the text; otherwise the six bytes, or the bytes up to the
end when there are fewer, are the bad sequence. -/
def readUnitEscape (buf : ByteArray) (i : Nat) : Except ReadError Nat :=
  if buf.size < i + 6 then
    if escapePrefixFrom buf i then .error .unexpectedEnd
    else .error (.badEscape (buf.extract i buf.size) i)
  else
    match hex4? buf (i + 2) with
    | some u => .ok u
    | none => .error (.badEscape (buf.extract i (i + 6)) i)

/-- The string body from `i`, after the opening quote: the text and the position after the
closing quote. Raw bytes are collected first, then read as UTF-8. -/
def readStringFrom (buf : ByteArray) (i : Nat) (out : ByteArray) : Except ReadError (String × Nat) :=
  if h : i < buf.size then
    let b := buf[i]
    if b == 0x22 then .ok (Utf8.decodeLossy out, i + 1)
    else if b == 0x5C then
      match expectAt buf (i + 1) with
      | .error e => .error e
      | .ok e =>
        let simple : Option UInt8 :=
          if e == 0x22 then some 0x22 else if e == 0x5C then some 0x5C
          else if e == 0x2F then some 0x2F else if e == 0x62 then some 0x08
          else if e == 0x66 then some 0x0C else if e == 0x6E then some 0x0A
          else if e == 0x72 then some 0x0D else if e == 0x74 then some 0x09 else none
        match simple with
        | some c => readStringFrom buf (i + 2) (out.push c)
        | none =>
          if e == 0x75 then
            match readUnitEscape buf i with
            | .error err => .error err
            | .ok u =>
              -- A high surrogate joins a following escaped low surrogate.
              let (code, used) :=
                if 0xD800 ≤ u ∧ u < 0xDC00 ∧ buf[i + 6]? = some 0x5C ∧ buf[i + 7]? = some 0x75 then
                  match hex4? buf (i + 8) with
                  | some lo =>
                    if 0xDC00 ≤ lo ∧ lo < 0xE000 then
                      (0x10000 + (u - 0xD800) * 0x400 + (lo - 0xDC00), 12)
                    else (0xFFFD, 6)
                  | none => (0xFFFD, 6)
                else if 0xD800 ≤ u ∧ u < 0xE000 then (0xFFFD, 6)
                else (u, 6)
              let bytes := (Char.ofNat code).toString.toUTF8
              readStringFrom buf (i + max used 1) (out ++ bytes)
          else .error (.badEscape (buf.extract i (i + 2)) i)
    else if b < 0x20 then .error (invalidAt buf i "in string")
    else readStringFrom buf (i + 1) (out.push b)
  else .error .unexpectedEnd
termination_by buf.size - i

def skipDigits (buf : ByteArray) (i : Nat) : Nat :=
  if h : i < buf.size then
    if 0x30 ≤ buf[i] && buf[i] ≤ 0x39 then skipDigits buf (i + 1) else i
  else i
termination_by buf.size - i

def digitAt (buf : ByteArray) (i : Nat) : Bool :=
  match buf[i]? with
  | some b => 0x30 ≤ b && b ≤ 0x39
  | none => false

def readNumber (buf : ByteArray) (i : Nat) : Except ReadError (String × Nat) := do
  let start := i
  let i := if buf[i]? = some 0x2D then i + 1 else i
  let b ← expectAt buf i
  let i ←
    if b == 0x30 then pure (i + 1)
    else if 0x31 ≤ b && b ≤ 0x39 then pure (skipDigits buf i)
    else throw (invalidAt buf i "in numeric literal")
  let i ←
    if buf[i]? = some 0x2E then
      let b ← expectAt buf (i + 1)
      if 0x30 ≤ b && b ≤ 0x39 then pure (skipDigits buf (i + 1))
      else throw (invalidAt buf (i + 1) "in numeric literal")
    else pure i
  let i ←
    if buf[i]? = some 0x65 || buf[i]? = some 0x45 then
      let j := if buf[i + 1]? = some 0x2B || buf[i + 1]? = some 0x2D then i + 2 else i + 1
      let b ← expectAt buf j
      if 0x30 ≤ b && b ≤ 0x39 then pure (skipDigits buf j)
      else throw (invalidAt buf j "in numeric literal")
    else pure i
  pure (Utf8.decodeLossy (buf.extract start i), i)

def readWord (buf : ByteArray) (i : Nat) (word : String) : Except ReadError Nat := do
  let bytes := word.toUTF8
  for k in [1:bytes.size] do
    let b ← expectAt buf (i + k)
    let want := bytes[k]!
    if b != want then
      throw (invalidAt buf (i + k)
        ("in literal " ++ word ++ " (expecting " ++ quoteChar (Char.ofNat want.toNat) ++ ")"))
  return i + bytes.size

mutual

def readValue (buf : ByteArray) (i : Nat) (fuel : Nat) : Except ReadError (Json × Nat) :=
  match fuel with
  | 0 => .error .unexpectedEnd
  | fuel + 1 =>
    let i := skipBlanks buf i
    match expectAt buf i with
    | .error e => .error e
    | .ok b =>
      if b == 0x7B then readMembers buf (i + 1) true [] fuel
      else if b == 0x5B then readItems buf (i + 1) true [] fuel
      else if b == 0x22 then (readStringFrom buf (i + 1) ByteArray.empty).map (fun (s, j) => (.string s, j))
      else if b == 0x2D || (0x30 ≤ b && b ≤ 0x39) then
        (readNumber buf i).map (fun (t, j) => (.number t, j))
      else if b == 0x74 then (readWord buf i "true").map (fun j => (.bool true, j))
      else if b == 0x66 then (readWord buf i "false").map (fun j => (.bool false, j))
      else if b == 0x6E then (readWord buf i "null").map (fun j => (.null, j))
      else .error (invalidAt buf i "looking for beginning of value")

def readItems (buf : ByteArray) (i : Nat) (first : Bool) (acc : List Json) (fuel : Nat) :
    Except ReadError (Json × Nat) :=
  match fuel with
  | 0 => .error .unexpectedEnd
  | fuel + 1 =>
    let i := skipBlanks buf i
    if first && buf[i]? = some 0x5D then .ok (.array acc.reverse, i + 1)
    else
      match readValue buf i fuel with
      | .error e => .error e
      | .ok (v, j) =>
        let j := skipBlanks buf j
        match expectAt buf j with
        | .error e => .error e
        | .ok b =>
          if b == 0x2C then readItems buf (j + 1) false (v :: acc) fuel
          else if b == 0x5D then .ok (.array (v :: acc).reverse, j + 1)
          else .error (invalidAt buf j "after array element")

def readMembers (buf : ByteArray) (i : Nat) (first : Bool) (acc : List (String × Json))
    (fuel : Nat) : Except ReadError (Json × Nat) :=
  match fuel with
  | 0 => .error .unexpectedEnd
  | fuel + 1 =>
    let i := skipBlanks buf i
    match expectAt buf i with
    | .error e => .error e
    | .ok b =>
      if first && b == 0x7D then .ok (.object acc.reverse, i + 1)
      else if b != 0x22 then .error (invalidAt buf i "looking for beginning of object key string")
      else
        match readStringFrom buf (i + 1) ByteArray.empty with
        | .error e => .error e
        | .ok (key, j) =>
          let j := skipBlanks buf j
          match expectAt buf j with
          | .error e => .error e
          | .ok c =>
            if c != 0x3A then .error (invalidAt buf j "after object key")
            else
              match readValue buf (j + 1) fuel with
              | .error e => .error e
              | .ok (v, k) =>
                let k := skipBlanks buf k
                match expectAt buf k with
                | .error e => .error e
                | .ok d =>
                  if d == 0x2C then readMembers buf (k + 1) false ((key, v) :: acc) fuel
                  else if d == 0x7D then .ok (.object ((key, v) :: acc).reverse, k + 1)
                  else .error (invalidAt buf k "after object key:value pair")

end

/-- Reads a whole JSON text: one value with blanks around it. -/
def read (buf : ByteArray) : Except ReadError Json :=
  match readValue buf 0 (buf.size + 1) with
  | .error e => .error e
  | .ok (v, j) =>
    let j := skipBlanks buf j
    match buf[j]? with
    | some _ => .error (invalidAt buf j "after top-level value")
    | none => .ok v

def readString (s : String) : Except ReadError Json := read s.toUTF8

end Json

end WikiDump


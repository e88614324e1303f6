import WikiDump.Variant
import WikiDump.Json.Value
/-!
# Values as JSON

A value of run-time type is written as JSON the standard way: NULL as `null`, numbers as
numbers, texts as strings (each byte of a text that starts no character read as `U+FFFD`), byte
strings in base 64, instants in RFC 3339 form, maps and records as objects with their keys in
increasing order, lists as arrays.

A double that is not finite has no JSON form: encoding fails with that double, the first one met
in key order.
-/

namespace WikiDump

namespace Base64

def digit (n : Nat) : Char :=
  if n < 26 then Char.ofNat (65 + n)
  else if n < 52 then Char.ofNat (97 + n - 26)
  else if n < 62 then Char.ofNat (48 + n - 52)
  else if n = 62 then '+' else '/'

def group : List UInt8 → String
  | [a] =>
    let n := a.toNat * 65536
    String.ofList [digit (n / 262144 % 64), digit (n / 4096 % 64), '=', '=']
  | [a, b] =>
    let n := a.toNat * 65536 + b.toNat * 256
    String.ofList [digit (n / 262144 % 64), digit (n / 4096 % 64), digit (n / 64 % 64), '=']
  | a :: b :: c :: _ =>
    let n := a.toNat * 65536 + b.toNat * 256 + c.toNat
    String.ofList [digit (n / 262144 % 64), digit (n / 4096 % 64), digit (n / 64 % 64), digit (n % 64)]
  | [] => ""

def encodeList : List UInt8 → String
  | a :: b :: c :: rest => group [a, b, c] ++ encodeList rest
  | rest => group rest

def encode (b : ByteArray) : String := encodeList b.toList

end Base64

namespace Variant

def collectEntries : List (String × Except Float Json) → Except Float (List (String × Json))
  | [] => .ok []
  | (_, .error x) :: _ => .error x
  | (k, .ok j) :: rest => (collectEntries rest).map ((k, j) :: ·)

def collectItems : List (Except Float Json) → Except Float (List Json)
  | [] => .ok []
  | .error x :: _ => .error x
  | .ok j :: rest => (collectItems rest).map (j :: ·)

mutual

def toJson : Variant → Except Float Json
  | .null => .ok .null
  | .int n => .ok (.int n.toInt)
  | .count n => .ok (.nat n)
  | .float x =>
    match Notation.json? x with
    | some t => .ok (.number t)
    | none => .error x
  | .str s => .ok (.string s)
  | .raw b => .ok (.string (Utf8.decodeLossy ⟨b.toArray⟩))
  | .bool b => .ok (.bool b)
  | .bytes b => .ok (.string (Base64.encode b))
  | .time t => .ok (.string t.rfc3339)
  | .map es => (collectEntries (sortByKey (entriesJson es))).map .object
  | .record es => (collectEntries (sortByKey (entriesJson es))).map .object
  | .list xs => (collectItems (itemsJson xs)).map .array

def entriesJson : List (String × Variant) → List (String × Except Float Json)
  | [] => []
  | (k, v) :: rest => (k, v.toJson) :: entriesJson rest

def itemsJson : List Variant → List (Except Float Json)
  | [] => []
  | v :: rest => v.toJson :: itemsJson rest

end

end Variant

def unsupportedValue (x : Float) : String := "json: unsupported value: " ++ Notation.ofFloat x

end WikiDump


import WikiDump.Field.Instant
import WikiDump.Number.Notation
import WikiDump.Number.Reading
import WikiDump.Number.Binary64
import WikiDump.Text.Utf8
/-!
# Values of run-time type

Records and query results hold values whose type is known only at run time: NULL, 64-bit
integers, doubles, texts, booleans, byte strings, instants, and the maps and lists that JSON
input brings. A map that is a record (a row seen by the query layer) is marked as such. Two
more kinds arise in the query engine only: a count, of the machine's own integer type rather
than a 64-bit one, and a text whose bytes are not well-formed UTF-8, kept byte for byte.

The display text of a value is its default text form, as bytes: `<nil>` for NULL, numbers in
general notation, texts as they are, bytes as a bracketed list of decimal byte values, an
instant as `YYYY-MM-DD hh:mm:ss +0000 UTC`, maps as `map[k:v …]` with the keys in increasing
order, and lists as `[a b …]`.
-/

namespace WikiDump

/-- A value whose type is known only at run time. -/
inductive Variant where
  | null
  | int (n : Int64)
  /-- A count, of the machine's integer type. -/
  | count (n : Nat)
  | float (x : Float)
  | str (s : String)
  /-- A text given by its bytes, which are not well-formed UTF-8. -/
  | raw (bytes : List UInt8)
  | bool (b : Bool)
  | bytes (b : ByteArray)
  | time (t : Instant)
  /-- A map from texts to values, in the order it was built. -/
  | map (entries : List (String × Variant))
  /-- A record: a row as the query layer sees it. -/
  | record (entries : List (String × Variant))
  | list (items : List Variant)
  deriving Inhabited

namespace Variant

def insertByKey (x : String × α) : List (String × α) → List (String × α)
  | [] => [x]
  | y :: ys => if x.1 < y.1 then x :: y :: ys else y :: insertByKey x ys

def sortByKey (xs : List (String × α)) : List (String × α) :=
  xs.foldl (fun acc x => insertByKey x acc) []

def timeText (t : Instant) : String :=
  Instant.padded 4 t.year ++ "-" ++ Instant.padded 2 t.month ++ "-" ++ Instant.padded 2 t.day ++
    " " ++ Instant.padded 2 t.hour ++ ":" ++ Instant.padded 2 t.minute ++ ":" ++
    Instant.padded 2 t.second ++ " +0000 UTC"

def utf8 (s : String) : List UInt8 := s.toList.flatMap String.utf8EncodeChar

theorem utf8_inj {s t : String} : utf8 s = utf8 t ↔ s = t := by
  refine ⟨fun same => ?_, congrArg utf8⟩
  have bytes := congrArg List.toByteArray same
  unfold utf8 at bytes
  rw [← List.utf8Encode, ← List.utf8Encode, String.utf8Encode_toList,
    String.utf8Encode_toList] at bytes
  exact String.toByteArray_inj.1 bytes

def joinEntries (entries : List (String × List UInt8)) : List UInt8 :=
  (utf8 " ").intercalate ((sortByKey entries).map (fun (k, v) => utf8 k ++ utf8 ":" ++ v))

mutual

def display : Variant → List UInt8
  | .null => utf8 "<nil>"
  | .int n => utf8 (toString n.toInt)
  | .count n => utf8 (toString n)
  | .float x => utf8 (Notation.ofFloat x)
  | .str s => utf8 s
  | .raw b => b
  | .bool b => utf8 (if b then "true" else "false")
  | .bytes b => utf8 ("[" ++ " ".intercalate (b.toList.map (fun x => toString x.toNat)) ++ "]")
  | .time t => utf8 (timeText t)
  | .map entries => utf8 "map[" ++ joinEntries (displayEntries entries) ++ utf8 "]"
  | .record entries => utf8 "map[" ++ joinEntries (displayEntries entries) ++ utf8 "]"
  | .list items => utf8 "[" ++ (utf8 " ").intercalate (displayItems items) ++ utf8 "]"

def displayEntries : List (String × Variant) → List (String × List UInt8)
  | [] => []
  | (k, v) :: rest => (k, display v) :: displayEntries rest

def displayItems : List Variant → List (List UInt8)
  | [] => []
  | v :: rest => display v :: displayItems rest

end

def displayText (v : Variant) : String := Utf8.decodeLossy ⟨v.display.toArray⟩

def isNull : Variant → Bool
  | .null => true
  | _ => false

def typeName : Variant → String
  | .null => "<nil>"
  | .int _ => "int64"
  | .count _ => "int"
  | .float _ => "float64"
  | .str _ | .raw _ => "string"
  | .bool _ => "bool"
  | .bytes _ => "[]uint8"
  | .time _ => "time.Time"
  | .map _ => "map[string]interface {}"
  | .record _ => "query.Record"
  | .list _ => "[]interface {}"

def number? : Variant → Option Float
  | .int n => some (Binary64.ofInt n.toInt)
  | .count n => some (Binary64.ofInt n)
  | .float x => some x
  | _ => none

/-- The number a value is or reads as: its display text read as a numeral, which a text that is
not UTF-8 never is. -/
def asNumber? (v : Variant) : Option Float :=
  match v.number? with
  | some x => some x
  | none =>
    match v with
    | .null => none
    | .str s => (Numeral.readFloat s).toOption
    | _ => (Utf8.decode? ⟨v.display.toArray⟩).bind fun t => (Numeral.readFloat t).toOption

end Variant

end WikiDump


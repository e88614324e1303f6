import WikiDump.Variant
import WikiDump.Text.Utf8
import WikiDump.Text.CaseMap
import WikiDump.Json.Value
/-!
# Field values

A column of a table holds integers of a fixed width, booleans, doubles, texts of several
kinds, byte strings, instants, expiries (an instant or never), or, in a nullable column, nothing.

Each field value has three faces: its JSON form, its display text (instants compact, an absent
value `NULL`, byte strings as their bytes), and its plain form, the dynamic value that rows
expose to queries and exports (integers as 64-bit integers, instants as instants, an infinite
expiry as the text `infinity`).
-/

namespace WikiDump

/-- A fixed-width integer type of a column, with the name it is reported under. -/
structure IntKind where
  name : String
  bits : Nat
  signed : Bool
  deriving Repr, BEq, Inhabited

namespace IntKind

def min (k : IntKind) : Int := if k.signed then -((Nat.pow 2 (k.bits - 1) : Nat) : Int) else 0

def max (k : IntKind) : Int := if k.signed then ((Nat.pow 2 (k.bits - 1) - 1 : Nat) : Int) else ((Nat.pow 2 k.bits - 1 : Nat) : Int)

def holds (k : IntKind) (n : Int) : Bool := k.min ≤ n && n ≤ k.max

/-- The value `n` takes when it is converted to the kind: its low `bits` bits, read with a sign
when the kind is signed. -/
def wrap (k : IntKind) (n : Int) : Int :=
  if k.signed then (BitVec.ofInt k.bits n).toInt else ((BitVec.ofInt k.bits n).toNat : Int)

/-- Whether the 64-bit integer `n` survives conversion to the kind, tested as a converter tests
it: the converted value, widened back to 64 signed bits, is `n` again, and it is positive
exactly when `n` is. Only the 64-bit unsigned kind needs the second test, since widening reads
its large values as the negative ones they came from. -/
def fits (k : IntKind) (n : Int) : Bool :=
  (BitVec.ofInt 64 (k.wrap n)).toInt == n && decide (0 < k.wrap n) == decide (0 < n)

def int8 : IntKind := ⟨"int8", 8, true⟩
def int16 : IntKind := ⟨"int16", 16, true⟩
def int32 : IntKind := ⟨"int32", 32, true⟩
def int64 : IntKind := ⟨"int64", 64, true⟩
def uint8 : IntKind := ⟨"uint8", 8, false⟩
def uint16 : IntKind := ⟨"uint16", 16, false⟩
def uint32 : IntKind := ⟨"uint32", 32, false⟩
def uint64 : IntKind := ⟨"uint64", 64, false⟩

def identifier (name : String) : IntKind := ⟨"fields." ++ name, 32, false⟩

def pageId : IntKind := identifier "PageID"
def categoryId : IntKind := identifier "CategoryID"
def logId : IntKind := identifier "LogID"
def revisionId : IntKind := identifier "RevisionID"
def changeTagId : IntKind := identifier "ChangeTagID"
def changeTagDefinitionId : IntKind := identifier "ChangeTagDefinitionID"
def recentChangeId : IntKind := identifier "RecentChangeID"
def externalLinkId : IntKind := identifier "ExternalLinkID"
def commentId : IntKind := identifier "CommentID"
def actorId : IntKind := identifier "ActorID"
def pageRestrictionId : IntKind := identifier "PageRestrictionID"
def userId : IntKind := identifier "UserID"
def namespaceNumber : IntKind := ⟨"fields.Namespace", 32, true⟩
def pageCount : IntKind := ⟨"fields.PageCount", 32, true⟩

end IntKind

/-- The kinds of text a column may hold. -/
inductive TextKind where
  | plain
  | title
  | fullTitle
  | caseInsensitive
  | sha1
  | minorMime
  | userGroup
  | pageType
  | contentModel
  | pageAction
  | protectionLevel
  | mediaType
  | majorMime
  deriving Repr, BEq, DecidableEq, Inhabited

namespace TextKind

def knownValues : TextKind → Option (List String)
  | .contentModel => some ["wikitext", "Scribunto", "text", "css", "sanitized-css", "javascript", "json"]
  | .pageAction => some ["edit", "move", "reply", "upload", "all"]
  | .protectionLevel => some ["", "autoconfirmed", "extendedconfirmed", "sysop", "templateeditor",
      "editprotected", "editsemiprotected"]
  | .mediaType => some ["UNKNOWN", "BITMAP", "DRAWING", "AUDIO", "VIDEO", "MULTIMEDIA", "OFFICE",
      "TEXT", "EXECUTABLE", "ARCHIVE", "3D"]
  | .majorMime => some ["unknown", "application", "audio", "image", "text", "video", "message",
      "model", "multipart"]
  | _ => none

def pageTypes : List String := ["page", "subcat", "file"]

end TextKind

def Title.readable (t : String) : String := t.map (fun c => if c = '_' then ' ' else c)

def CaseInsensitive.equal (a b : String) : Bool := a == b || CaseMap.fold a == CaseMap.fold b

def Namespace.isTalk (n : Int) : Bool := n > 0 && n % 2 == 1

/-- A value held by a field. -/
inductive Datum where
  | int (kind : IntKind) (n : Int)
  | bool (b : Bool)
  | float (x : Float)
  | text (kind : TextKind) (s : String)
  | blob (b : ByteArray)
  | instant (t : Instant)
  /-- An expiry: an instant, or `none` for never. -/
  | expiry (t : Option Instant)
  /-- Nothing, in a nullable column. -/
  | absent
  deriving Inhabited

namespace Datum

def display : Datum → ByteArray
  | .int _ n => (toString n).toUTF8
  | .bool b => (if b then "true" else "false").toUTF8
  | .float x => (Notation.ofFloat x).toUTF8
  | .text _ s => s.toUTF8
  | .blob b => b
  | .instant t => t.compact.toUTF8
  | .expiry none => "infinity".toUTF8
  | .expiry (some t) => t.compact.toUTF8
  | .absent => "NULL".toUTF8

/-- The plain dynamic value of a field. An integer beyond 64 signed bits is shown as its text,
since the plain form has no type for it. -/
def plain : Datum → Variant
  | .int _ n => if n ≥ Nat.pow 2 63 ∨ n < -(Nat.pow 2 63) then .str (toString n) else .int (Int64.ofInt n)
  | .bool b => .bool b
  | .float x => .float x
  | .text _ s => .str s
  | .blob b => .bytes b
  | .instant t => .time t
  | .expiry none => .str "infinity"
  | .expiry (some t) => .time t
  | .absent => .null

/-- The JSON form: byte strings as text with each byte that is not UTF-8 replaced, instants in
RFC 3339 form. Floats read from a dump are finite; a non-finite one has no JSON number and is
written `null`. -/
def json : Datum → Json
  | .int _ n => .int n
  | .bool b => .bool b
  | .float x => match Notation.json? x with
    | some t => .number t
    | none => .null
  | .text _ s => .string s
  | .blob b => .string (Utf8.decodeLossy b)
  | .instant t => .string t.rfc3339
  | .expiry none => .string "infinity"
  | .expiry (some t) => .string t.rfc3339
  | .absent => .null

def exposed (d : Datum) : Variant :=
  match d.plain with
  | .time t => .str t.rfc3339
  | v => v

end Datum

end WikiDump


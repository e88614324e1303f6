import WikiDump.Query.Filter
import WikiDump.Dump.Error
/-!
# Expressions written as text

A written expression joins comparisons with `OR` and `AND` (blanks around them, any case) and
groups them with parentheses; `AND` binds tighter than `OR`. The text is split at every ` OR `
outside quotes and parentheses, and each piece is read again; without an ` OR `, at every
` AND `; a text wholly inside one pair of parentheses is read without them; anything else must
be one comparison. Pieces are joined from the left.

The search for the joining words runs over the bytes of the text while looking at the same
positions of its uppercase form. When uppercasing changes the length of the text the two drift
apart, and a position past the end of the uppercase form, or a piece that would start past the
end of the text, is a fault.
-/

namespace WikiDump

namespace Query

/-- Why a written expression was refused. -/
inductive ExpressionError where
  | empty
  /-- A piece that is no comparison. -/
  | invalidCondition (text : ByteArray)
  | fault (f : Fault)
  deriving Inhabited

def ExpressionError.message : ExpressionError → String
  | .empty => "empty expression"
  | .invalidCondition t => "invalid condition " ++ Quoted.ofBytes t
  | .fault f => f.message

def bytesAt (b pat : ByteArray) (i : Nat) : Bool :=
  i + pat.size ≤ b.size && (List.range pat.size).all (fun k => b[i + k]? == pat[k]?)

/-- The pieces of `s` between the occurrences of `op` outside quotes and parentheses, each
trimmed; the occurrences are found in `upper`, the uppercase form of `s`. -/
def splitPieces (s upper op : ByteArray) (i : Nat) (quote : Option UInt8) (depth : Int)
    (last : Nat) (acc : Array ByteArray) : Except Fault (Array ByteArray) :=
  if h : i < s.size then
    let c := s[i]
    match quote with
    | some q => splitPieces s upper op (i + 1) (if c == q then none else some q) depth last acc
    | none =>
      if c == 0x27 || c == 0x22 then splitPieces s upper op (i + 1) (some c) depth last acc
      else if c == 0x28 then splitPieces s upper op (i + 1) none (depth + 1) last acc
      else if c == 0x29 then splitPieces s upper op (i + 1) none (depth - 1) last acc
      else if depth == 0 then
        if i > upper.size then .error (.bounds .sliceOrder i upper.size)
        else if bytesAt upper op i then
          -- The search goes on right after the joining word, which is never empty.
          splitPieces s upper op (i + (op.size - 1) + 1) none depth (i + op.size)
            (acc.push (Space.trimBytes (s.extract last i)))
        else splitPieces s upper op (i + 1) none depth last acc
      else splitPieces s upper op (i + 1) none depth last acc
  else if last > s.size then .error (.bounds .sliceOrder last s.size)
  else .ok (acc.push (Space.trimBytes (s.extract last s.size)))
termination_by s.size - i

def depthBefore (s : ByteArray) (stop : Nat) : Int :=
  let step : (Option UInt8 × Int × Bool) → UInt8 → (Option UInt8 × Int × Bool) :=
    fun (quote, depth, closed) c =>
      if closed then (quote, depth, closed)
      else
        match quote with
        | some q => (if c == q then none else some q, depth, false)
        | none =>
          if c == 0x27 || c == 0x22 then (some c, depth, false)
          else if c == 0x28 then (none, depth + 1, false)
          else if c == 0x29 then (none, depth - 1, depth - 1 == 0)
          else (none, depth, false)
  let (_, depth, closed) := ((s.extract 0 stop).toList.foldl step (none, 0, false))
  if closed then 0 else depth

def upperBytes (s : ByteArray) : ByteArray := (CaseMap.upperText (Utf8.decodeLossy s)).toUTF8

mutual

/-- Reads a trimmed written expression; `fuel` exceeds its length, and every piece read again
is shorter. -/
def readExpression : Nat → ByteArray → Except ExpressionError Expression
  | 0, _ => .error .empty
  | fuel + 1, input =>
    let s := Space.trimBytes input
    if s.size = 0 then .error .empty
    else
      let upper := upperBytes s
      match splitPieces s upper " OR ".toUTF8 0 none 0 0 #[] with
      | .error f => .error (.fault f)
      | .ok orPieces =>
        if orPieces.size > 1 then joinPieces fuel .or orPieces.toList
        else
          match splitPieces s upper " AND ".toUTF8 0 none 0 0 #[] with
          | .error f => .error (.fault f)
          | .ok andPieces =>
            if andPieces.size > 1 then joinPieces fuel .and andPieces.toList
            else if s[0]? == some 0x28 && s[s.size - 1]? == some 0x29 && depthBefore s (s.size - 1) == 1 then
              readExpression fuel (s.extract 1 (s.size - 1))
            else
              match Comparison.parse? (Utf8.decodeLossy s) with
              | some cmp => .ok (.condition (Filter.make cmp.field cmp.operator (typedLiteral cmp.value)))
              | none => .error (.invalidCondition s)

def joinPieces : Nat → (Expression → Expression → Expression) → List ByteArray →
    Except ExpressionError Expression
  | _, _, [] => .error .empty
  | fuel, join, first :: rest =>
    match readExpression fuel first with
    | .error e => .error e
    | .ok e => joinRest fuel join e rest

def joinRest : Nat → (Expression → Expression → Expression) → Expression → List ByteArray →
    Except ExpressionError Expression
  | _, _, acc, [] => .ok acc
  | fuel, join, acc, p :: ps =>
    match readExpression fuel p with
    | .error e => .error e
    | .ok e => joinRest fuel join (join acc e) ps

end

def Expression.ofText (text : String) : Except ExpressionError Expression :=
  readExpression (text.utf8ByteSize + 1) text.toUTF8

end Query

end WikiDump


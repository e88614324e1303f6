import WikiDump.Dump.Literal
/-!
# Reading tuples

A tuple is `(` blanks, then literals separated by `,` with blanks around them, then `)`; the
empty tuple `()` has no literal. A tuple must hold exactly as many literals as its table has
columns. Reading stops at the first fault and reports, beside the error, the values read so
far and the position it stopped at.
-/

namespace WikiDump

/-- What reading a tuple gave: the values read, the position reached (one past the `)` on
success), and the error that stopped it. -/
structure TupleRead where
  values : Array Value
  next : Nat
  error : Option ScanError
  deriving Inhabited

namespace Tuple

open Bytes

theorem le_skipSpace (buf : ByteArray) (i : Nat) : i ≤ skipSpace buf i := le_skipWhile _ _ _

def readItems (buf : ByteArray) (start : Nat) (width : Int) (i : Nat) (values : Array Value) :
    TupleRead :=
  if i ≥ buf.size then ⟨values, i, some (ScanError.endOfInput i "literal")⟩
  else
    match Literal.read buf i with
    | .error e => ⟨values, i, some e⟩
    | .ok (v, n) =>
      let values := values.push v
      let j := skipSpace buf (i + n)
      match hj : at? buf j with
      | none => ⟨values, j, some (ScanError.endOfInput j "',' or ')'")⟩
      | some c =>
        if c == comma then
          have : j < buf.size := by
            unfold at? at hj; split at hj
            · assumption
            · contradiction
          have : i ≤ j := Nat.le_trans (Nat.le_add_right i n) (le_skipSpace buf (i + n))
          have : j + 1 ≤ skipSpace buf (j + 1) := le_skipSpace buf (j + 1)
          have : buf.size - skipSpace buf (j + 1) < buf.size - i := by omega
          readItems buf start width (skipSpace buf (j + 1)) values
        else if c == closeParen then
          if (values.size : Int) = width then ⟨values, j + 1, none⟩
          else ⟨values, j, some (.columnCount "" start width values.size)⟩
        else ⟨values, j, some (ScanError.unexpected buf j "',' or ')'")⟩
termination_by buf.size - i

/-- Reads the tuple at `pos`, which must hold `width` values. -/
def read (buf : ByteArray) (pos : Nat) (width : Int) : TupleRead :=
  match at? buf pos with
  | none => ⟨#[], pos, some (ScanError.endOfInput pos "'('")⟩
  | some c =>
    if c != openParen then ⟨#[], pos, some (ScanError.unexpected buf pos "'('")⟩
    else
      let i := skipSpace buf (pos + 1)
      if atEq buf i closeParen then
        if width ≠ 0 then ⟨#[], i, some (.columnCount "" pos width 0)⟩ else ⟨#[], i + 1, none⟩
      else readItems buf pos width i #[]

end Tuple

end WikiDump


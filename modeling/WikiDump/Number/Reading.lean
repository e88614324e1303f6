import WikiDump.Number.Binary64
import WikiDump.Text.Quoted
/-!
# Reading numbers from text

Decimal integers are read digit by digit: a character that is not a digit is a syntax error,
and a value that leaves the range of the target width is a range error, found at the first
digit that overflows. Floating-point numerals follow the usual literal syntax: an optional
sign, decimal digits with an optional point and an `e` exponent, or `0x` hexadecimal digits
with a required `p` exponent; `_` may separate digits; `inf`, `infinity` and `nan` are read in
any letter case. The value is the double nearest to the exact numeral, and a numeral beyond the
largest double is a range error.
-/

namespace WikiDump

/-- Why a numeral was refused. -/
inductive NumeralFailure where
  | malformed
  | outOfRange
  deriving Repr, BEq, Inhabited

/-- A refused numeral: which reading refused it, the text, and why. -/
structure NumeralError where
  reader : String
  input : String
  failure : NumeralFailure
  deriving Repr, BEq, Inhabited

namespace NumeralError

def message (e : NumeralError) : String :=
  "strconv." ++ e.reader ++ ": parsing " ++ Quoted.ofString e.input ++ ": " ++
    match e.failure with
    | .malformed => "invalid syntax"
    | .outOfRange => "value out of range"

end NumeralError

namespace Numeral

def decimalDigit? (c : Char) : Option Nat :=
  if '0' ≤ c ∧ c ≤ '9' then some (c.toNat - '0'.toNat) else none

def hexDigit? (c : Char) : Option Nat :=
  if '0' ≤ c ∧ c ≤ '9' then some (c.toNat - '0'.toNat)
  else if 'a' ≤ c ∧ c ≤ 'f' then some (c.toNat - 'a'.toNat + 10)
  else if 'A' ≤ c ∧ c ≤ 'F' then some (c.toNat - 'A'.toNat + 10)
  else none

def unsignedDigits (limit : Nat) : List Char → Nat → Except NumeralFailure Nat
  | [], acc => .ok acc
  | c :: rest, acc =>
    match decimalDigit? c with
    | none => .error .malformed
    | some d =>
      if acc * 10 + d > limit then .error .outOfRange else unsignedDigits limit rest (acc * 10 + d)

def readInt (s : String) (bits : Nat) : Except NumeralError Int :=
  let fail := fun f => Except.error (NumeralError.mk "ParseInt" s f)
  let chars := s.toList
  let (negative, body) :=
    match chars with
    | '+' :: rest => (false, rest)
    | '-' :: rest => (true, rest)
    | _ => (false, chars)
  if chars.isEmpty ∨ body.isEmpty then fail .malformed
  else
    match unsignedDigits (Nat.pow 2 bits - 1) body 0 with
    | .error f => fail f
    | .ok n =>
      let cutoff := Nat.pow 2 (bits - 1)
      if ¬negative ∧ n ≥ cutoff then fail .outOfRange
      else if negative ∧ n > cutoff then fail .outOfRange
      else .ok (if negative then -(n : Int) else n)

def lower (c : Char) : Char := if 'A' ≤ c ∧ c ≤ 'Z' then Char.ofNat (c.toNat + 32) else c

/-- Whether `_` separates digits only: each `_` follows a digit or a base prefix and precedes
a digit. -/
def underscoresPlaced (chars : List Char) : Bool :=
  let body := match chars with
    | c :: rest => if c = '+' ∨ c = '-' then rest else chars
    | [] => []
  let (start, hex, rest) :=
    match body with
    | '0' :: b :: rest =>
      if lower b = 'b' ∨ lower b = 'o' ∨ lower b = 'x' then ('0', lower b == 'x', rest)
      else ('^', false, body)
    | _ => ('^', false, body)
  let step : Option Char → Char → Option Char := fun saw c =>
    match saw with
    | none => none
    | some s =>
      if (decimalDigit? c).isSome || (hex && (hexDigit? c).isSome) then some '0'
      else if c = '_' then (if s = '0' then some '_' else none)
      else if s = '_' then none
      else some '!'
  match rest.foldl step (some start) with
  | some s => s ≠ '_'
  | none => false

/-- Reads digits of a base into `acc`, refusing values above `limit`; `_` is skipped here and
its placement checked by the caller. -/
def baseDigits (base limit : Nat) : List Char → Nat → Except NumeralFailure Nat
  | [], acc => .ok acc
  | c :: rest, acc =>
    if c = '_' then baseDigits base limit rest acc
    else
      match hexDigit? c with
      | some d =>
        if d < base then
          if acc * base + d > limit then .error .outOfRange
          else baseDigits base limit rest (acc * base + d)
        else .error .malformed
      | none => .error .malformed

/-- A signed integer of `bits` bits whose base its prefix chooses: `0x` hexadecimal, `0o` or a
bare leading `0` octal, `0b` binary, otherwise decimal; `_` may separate digits. -/
def readIntPrefixed (s : String) (bits : Nat) : Except NumeralError Int :=
  let fail := fun f => Except.error (NumeralError.mk "ParseInt" s f)
  let chars := s.toList
  let (negative, body) :=
    match chars with
    | '+' :: rest => (false, rest)
    | '-' :: rest => (true, rest)
    | _ => (false, chars)
  let (base, digits) : Nat × List Char :=
    match body with
    | '0' :: b :: rest =>
      if rest.length ≥ 1 ∧ lower b = 'b' then (2, rest)
      else if rest.length ≥ 1 ∧ lower b = 'o' then (8, rest)
      else if rest.length ≥ 1 ∧ lower b = 'x' then (16, rest)
      else (8, b :: rest)
    | ['0'] => (8, [])
    | _ => (10, body)
  if body.isEmpty then fail .malformed
  else
    match baseDigits base (Nat.pow 2 64 - 1) digits 0 with
    | .error f => fail f
    | .ok n =>
      if digits.contains '_' ∧ ¬ underscoresPlaced chars then fail .malformed
      else
        let cutoff := Nat.pow 2 (bits - 1)
        if ¬negative ∧ n ≥ cutoff then fail .outOfRange
        else if negative ∧ n > cutoff then fail .outOfRange
        else .ok (if negative then -(n : Int) else n)

/-- An unsigned integer of `bits` bits whose base its prefix chooses, as for
`readIntPrefixed`, with no sign. -/
def readUintPrefixed (s : String) (bits : Nat) : Except NumeralError Nat :=
  let fail := fun f => Except.error (NumeralError.mk "ParseUint" s f)
  let chars := s.toList
  let (base, digits) : Nat × List Char :=
    match chars with
    | '0' :: b :: rest =>
      if rest.length ≥ 1 ∧ lower b = 'b' then (2, rest)
      else if rest.length ≥ 1 ∧ lower b = 'o' then (8, rest)
      else if rest.length ≥ 1 ∧ lower b = 'x' then (16, rest)
      else (8, b :: rest)
    | ['0'] => (8, [])
    | _ => (10, chars)
  if chars.isEmpty then fail .malformed
  else
    match baseDigits base (Nat.pow 2 bits - 1) digits 0 with
    | .error f => fail f
    | .ok n => if digits.contains '_' ∧ ¬ underscoresPlaced chars then fail .malformed else .ok n

/-- A signed integer of `bits` bits in a given base: an optional sign, then digits of the base
and nothing else. -/
def readIntIn (base : Nat) (s : String) (bits : Nat) : Except NumeralError Int :=
  let fail := fun f => Except.error (NumeralError.mk "ParseInt" s f)
  let chars := s.toList
  let (negative, body) :=
    match chars with
    | '+' :: rest => (false, rest)
    | '-' :: rest => (true, rest)
    | _ => (false, chars)
  if body.isEmpty ∨ body.contains '_' then fail .malformed
  else
    match baseDigits base (Nat.pow 2 64 - 1) body 0 with
    | .error f => fail f
    | .ok n =>
      let cutoff := Nat.pow 2 (bits - 1)
      if ¬negative ∧ n ≥ cutoff then fail .outOfRange
      else if negative ∧ n > cutoff then fail .outOfRange
      else .ok (if negative then -(n : Int) else n)

def readUintIn (base : Nat) (s : String) (bits : Nat) : Except NumeralError Nat :=
  let chars := s.toList
  if chars.isEmpty ∨ chars.contains '_' then .error ⟨"ParseUint", s, .malformed⟩
  else
    match baseDigits base (Nat.pow 2 bits - 1) chars 0 with
    | .error f => .error ⟨"ParseUint", s, f⟩
    | .ok n => .ok n

/-- A boolean: `1`, `t`, `T`, `TRUE`, `true` and `True` are true, `0`, `f`, `F`, `FALSE`,
`false` and `False` are false, and nothing else is read. -/
def readBool (s : String) : Except NumeralError Bool :=
  if ["1", "t", "T", "TRUE", "true", "True"].contains s then .ok true
  else if ["0", "f", "F", "FALSE", "false", "False"].contains s then .ok false
  else .error ⟨"ParseBool", s, .malformed⟩

/-- The parts of a numeral: its digits as one integer, and the power that scales them. -/
structure Parts where
  negative : Bool
  hex : Bool
  digits : Nat
  /-- Decimal numerals scale by `10 ^ scale`, hexadecimal ones by `2 ^ scale`. -/
  scale : Int
  deriving Repr

/-- State while reading the digits of a numeral. -/
structure DigitScan where
  value : Nat := 0
  sawDigits : Bool := false
  sawPoint : Bool := false
  fractionDigits : Nat := 0
  underscores : Bool := false

def scanMantissa (hex : Bool) : List Char → DigitScan → DigitScan × List Char
  | [], st => (st, [])
  | c :: rest, st =>
    if c = '_' then scanMantissa hex rest { st with underscores := true }
    else if c = '.' then
      if st.sawPoint then (st, c :: rest) else scanMantissa hex rest { st with sawPoint := true }
    else
      let digit := if hex then hexDigit? c else decimalDigit? c
      match digit with
      | some d =>
        scanMantissa hex rest
          { st with
            value := st.value * (if hex then 16 else 10) + d
            sawDigits := true
            fractionDigits := if st.sawPoint then st.fractionDigits + 1 else st.fractionDigits }
      | none => (st, c :: rest)

def scanExponent : List Char → Nat → Bool → Nat × Bool × List Char
  | [], e, u => (e, u, [])
  | c :: rest, e, u =>
    if c = '_' then scanExponent rest e true
    else match decimalDigit? c with
      | some d => scanExponent rest (if e < 10000 then e * 10 + d else e) u
      | none => (e, u, c :: rest)

def readParts (chars : List Char) : Option (Parts × List Char) :=
  let (negative, afterSign) :=
    match chars with
    | '+' :: rest => (false, rest)
    | '-' :: rest => (true, rest)
    | _ => (false, chars)
  let (hex, body) :=
    match afterSign with
    | '0' :: x :: r :: rest => if lower x = 'x' then (true, r :: rest) else (false, afterSign)
    | _ => (false, afterSign)
  let (st, rest) := scanMantissa hex body {}
  if ¬st.sawDigits then none
  else
    let fractionScale : Int := if hex then -4 * (st.fractionDigits : Int) else -(st.fractionDigits : Int)
    let expChar := if hex then 'p' else 'e'
    let finish := fun (scale : Int) (underscores : Bool) (left : List Char) =>
      let used := chars.take (chars.length - left.length)
      if underscores ∧ ¬underscoresPlaced used then none
      else some (⟨negative, hex, st.value, scale⟩, left)
    match rest with
    | c :: afterExp =>
      if lower c = expChar then
        let (expNegative, digitsPart) :=
          match afterExp with
          | '+' :: r => (false, r)
          | '-' :: r => (true, r)
          | _ => (false, afterExp)
        match digitsPart with
        | d :: _ =>
          if (decimalDigit? d).isSome then
            let (e, u, left) := scanExponent digitsPart 0 st.underscores
            finish (fractionScale + (if expNegative then -(e : Int) else e)) u left
          else none
        | [] => none
      else if hex then none
      else finish fractionScale st.underscores rest
    | [] => if hex then none else finish fractionScale st.underscores []

/-- The exact value of numeral parts, or which way it lies outside the range of doubles
(`.inr true` above it, `.inr false` below half the smallest). -/
def exactValue (p : Parts) : Ratio ⊕ Bool :=
  if p.digits = 0 then .inl ⟨0, 1⟩
  else if p.hex then
    let top := (p.digits.log2 : Int) + 1 + p.scale
    if top > 1100 then .inr true
    else if top < -1100 then .inr false
    else .inl ((Ratio.mk p.digits 1).mul (Ratio.pow2 p.scale))
  else
    let top := ((Nat.toDigits 10 p.digits).length : Int) + p.scale
    if top > 330 then .inr true
    else if top < -345 then .inr false
    else .inl ((Ratio.mk p.digits 1).mul (Ratio.pow10 p.scale))

def special? (s : String) : Option Float :=
  let chars := s.toList.map lower
  let (negative, body) :=
    match chars with
    | '-' :: rest => (true, rest)
    | '+' :: rest => (false, rest)
    | _ => (false, chars)
  if body = "infinity".toList ∨ body = "inf".toList then some (Binary64.infinity negative)
  else if chars = "nan".toList then some (0.0 / 0.0)
  else none

def readFloat (s : String) : Except NumeralError Float :=
  match special? s with
  | some x => .ok x
  | none =>
    match readParts s.toList with
    | some (p, []) =>
      match exactValue p with
      | .inr true => .error ⟨"ParseFloat", s, .outOfRange⟩
      | .inr false => .ok (Binary64.zero p.negative)
      | .inl value =>
        let (x, overflow) := Binary64.nearest p.negative value
        if overflow then .error ⟨"ParseFloat", s, .outOfRange⟩ else .ok x
    | _ => .error ⟨"ParseFloat", s, .malformed⟩

end Numeral

end WikiDump


/-!
# Double-precision values as exact numbers

A finite double is `± mantissa * 2 ^ exponent`, with the mantissa below `2 ^ 53`. This module
reads a double's bits into that form and builds the double nearest to an exact rational
`num / den`, rounding a tie to the even mantissa, so that both directions are stated in `Nat`
arithmetic that proofs can follow.
-/

namespace WikiDump

/-- A nonnegative rational `num / den`; `den` is positive wherever one is built here. -/
structure Ratio where
  num : Nat
  den : Nat
  deriving Repr, Inhabited

namespace Ratio

def le (a b : Ratio) : Bool := a.num * b.den ≤ b.num * a.den

def lt (a b : Ratio) : Bool := a.num * b.den < b.num * a.den

def mul (a b : Ratio) : Ratio := ⟨a.num * b.num, a.den * b.den⟩

def add (a b : Ratio) : Ratio := ⟨a.num * b.den + b.num * a.den, a.den * b.den⟩

def pow2 (e : Int) : Ratio := if 0 ≤ e then ⟨Nat.pow 2 e.toNat, 1⟩ else ⟨1, Nat.pow 2 (-e).toNat⟩

def pow10 (e : Int) : Ratio := if 0 ≤ e then ⟨Nat.pow 10 e.toNat, 1⟩ else ⟨1, Nat.pow 10 (-e).toNat⟩

def floor (a : Ratio) : Nat := a.num / a.den

end Ratio

/-- What a double holds. -/
inductive Binary64 where
  | nan
  | infinite (negative : Bool)
  /-- The value `± mantissa * 2 ^ exponent`; `lowerGapHalved` marks a power of two above the
  smallest normal, whose gap to the next smaller double is half the gap above it. -/
  | finite (negative : Bool) (mantissa : Nat) (exponent : Int) (lowerGapHalved : Bool)
  deriving Repr, Inhabited

namespace Binary64

def ofFloat (x : Float) : Binary64 :=
  let bits := x.toBits.toNat
  let negative := bits >>> 63 = 1
  let biased := (bits >>> 52) % 2048
  let fraction := bits % Nat.pow 2 52
  if biased = 2047 then
    if fraction = 0 then .infinite negative else .nan
  else if biased = 0 then .finite negative fraction (-1074) false
  else .finite negative (fraction + Nat.pow 2 52) ((biased : Int) - 1075) (fraction = 0 ∧ biased > 1)

def assemble (negative : Bool) (biased fraction : Nat) : Float :=
  Float.ofBits (UInt64.ofNat ((if negative then Nat.pow 2 63 else 0) + biased * Nat.pow 2 52 + fraction))

/-- Positive or negative infinity. -/
def infinity (negative : Bool) : Float := assemble negative 2047 0

def zero (negative : Bool) : Float := assemble negative 0 0

/-- The integer part of `value / 2 ^ e`, and whether a remainder is left, as a numerator over
the divisor that was used. -/
def scaledQuotient (value : Ratio) (e : Int) : Nat × Nat × Nat :=
  let scaled := value.mul (Ratio.pow2 (-e))
  (scaled.num / scaled.den, scaled.num % scaled.den, scaled.den)

def roundHalfEven (q rem div : Nat) : Nat :=
  if 2 * rem > div ∨ (2 * rem = div ∧ q % 2 = 1) then q + 1 else q

/-- The double nearest to `± value`, a tie going to the even mantissa, and whether the value
lies beyond the largest finite double (it is then an infinity). -/
def nearest (negative : Bool) (value : Ratio) : Float × Bool :=
  if value.num = 0 then (zero negative, false)
  else
    -- An exponent that puts the quotient in [2^51, 2^53), moved down once if below 2^52.
    let estimate : Int := (value.num.log2 : Int) - (value.den.log2 : Int) - 52
    let e0 := if (scaledQuotient value estimate).1 < Nat.pow 2 52 then estimate - 1 else estimate
    let e := if e0 < -1074 then -1074 else e0
    let (q, rem, div) := scaledQuotient value e
    let m := roundHalfEven q rem div
    -- Rounding may carry into a new power of two.
    let (m, e) := if m = Nat.pow 2 53 then (Nat.pow 2 52, e + 1) else (m, e)
    if m < Nat.pow 2 52 then (assemble negative 0 m, false)
    else
      let biased := e + 1075
      if biased ≥ 2047 then (infinity negative, true)
      else (assemble negative biased.toNat (m - Nat.pow 2 52), false)

def ofInt (n : Int) : Float := (nearest (n < 0) ⟨n.natAbs, 1⟩).1

end Binary64

end WikiDump


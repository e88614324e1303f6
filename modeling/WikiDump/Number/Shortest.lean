import WikiDump.Number.Binary64
/-!
# Shortest decimal digits of a double

The digits written for a double are the fewest that read back as the same double. Every real
strictly between the midpoints to the neighbouring doubles reads back as this double, and so
do the midpoints themselves when the mantissa is even. For each count of significant digits
from one on, the two decimals of that many digits next to the value are tested against that
interval; the first count with a hit wins, the nearer hit is kept, and of two equally near
hits the one with the even last digit.

If some decimal with `n` digits lies in the interval, then so does one of the value's two
neighbours with `n` digits, since the interval contains the value; so testing the neighbours
is enough.
-/

namespace WikiDump

/-- Significant decimal digits and the position of the decimal point: the value is
`0.d₁d₂…dₙ * 10 ^ point`. The first digit is not zero and the last is not zero; zero has no
digits. -/
structure DecimalDigits where
  digits : List Nat
  point : Int
  deriving Repr, Inhabited, BEq

namespace DecimalDigits

def digitCount (n : Nat) : Nat := (Nat.toDigits 10 n).length

def floorLog10 (x : Ratio) : Int :=
  if x.num ≥ x.den then (digitCount (x.num / x.den) : Int) - 1
  else -(digitCount ((x.den + x.num - 1) / x.num - 1) : Int)

def ofScaled (c : Nat) (k : Int) : DecimalDigits :=
  let ds := (Nat.toDigits 10 c).map (fun ch => ch.toNat - '0'.toNat)
  let kept := (ds.reverse.dropWhile (· = 0)).reverse
  ⟨kept, (ds.length : Int) + k⟩

/-- The interval of reals that read back as the double `mantissa * 2 ^ exponent`. -/
structure Window where
  low : Ratio
  value : Ratio
  high : Ratio
  inclusive : Bool

def Window.holds (w : Window) (x : Ratio) : Bool :=
  if w.inclusive then w.low.le x && x.le w.high else w.low.lt x && x.lt w.high

def window (mantissa : Nat) (exponent : Int) (lowerGapHalved : Bool) : Window :=
  let value := (Ratio.mk mantissa 1).mul (Ratio.pow2 exponent)
  let high := (Ratio.mk (2 * mantissa + 1) 1).mul (Ratio.pow2 (exponent - 1))
  let low :=
    if lowerGapHalved then (Ratio.mk (4 * mantissa - 1) 1).mul (Ratio.pow2 (exponent - 2))
    else (Ratio.mk (2 * mantissa - 1) 1).mul (Ratio.pow2 (exponent - 1))
  ⟨low, value, high, mantissa % 2 = 0⟩

/-- The decimal with `n` significant digits that reads back, if there is one: of the two
neighbours of the value on the grid `10 ^ (e - n + 1)`, the one in the window, or the nearer
when both are, or the even one when both are equally near. -/
def pickAt (w : Window) (e : Int) (n : Nat) : Option (Nat × Int) :=
  let k := e - (n : Int) + 1
  let grid := Ratio.pow10 k
  let lo := (w.value.mul ⟨grid.den, grid.num⟩).floor
  let atLo := (Ratio.mk lo 1).mul grid
  let atHi := (Ratio.mk (lo + 1) 1).mul grid
  match w.holds atLo, w.holds atHi with
  | true, true =>
    let twice := (Ratio.mk 2 1).mul w.value
    let middle := (Ratio.mk (2 * lo + 1) 1).mul grid
    if twice.lt middle then some (lo, k)
    else if middle.lt twice then some (lo + 1, k)
    else if lo % 2 = 0 then some (lo, k) else some (lo + 1, k)
  | true, false => some (lo, k)
  | false, true => some (lo + 1, k)
  | false, false => none

def search (w : Window) (e : Int) (n : Nat) (fuel : Nat) : Nat × Int :=
  match fuel with
  | 0 => ((w.value.mul ⟨(Ratio.pow10 (e - 16)).den, (Ratio.pow10 (e - 16)).num⟩).floor, e - 16)
  | fuel + 1 =>
    match pickAt w e n with
    | some hit => hit
    | none => search w e (n + 1) fuel

def shortest (mantissa : Nat) (exponent : Int) (lowerGapHalved : Bool) : DecimalDigits :=
  if mantissa = 0 then ⟨[], 0⟩
  else
    let w := window mantissa exponent lowerGapHalved
    let (c, k) := search w (floorLog10 w.value) 1 17
    ofScaled c k

/-- The exact digits of `value` rounded to `places` digits after the point, a tie going to the
even last digit; the result is the rounded number scaled by `10 ^ places`. -/
def roundedScaled (value : Ratio) (places : Nat) : Nat :=
  let scaled := value.mul ⟨Nat.pow 10 places, 1⟩
  let q := scaled.num / scaled.den
  let rem := scaled.num % scaled.den
  Binary64.roundHalfEven q rem scaled.den

end DecimalDigits

end WikiDump


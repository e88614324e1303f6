import WikiDump.Number.Shortest
/-!
# Writing doubles

Three layouts are written from the shortest digits of a double:

* exponent notation `d.ddde±XX`, with at least two exponent digits;
* positional notation, with as many fraction digits as the digits need;
* general notation, positional when the decimal exponent is at least `-4` and below `6`, and
  in exponent notation otherwise.

The JSON layout is positional from the double `1e-6` up to below `1e21` and in exponent
notation outside, with the exponent written without a leading zero. Fixed notation rounds the exact value to a
given number of places, a tie going to the even digit. Not-a-number and the infinities are
written `NaN`, `+Inf` and `-Inf` where a layout admits them.
-/

namespace WikiDump.Notation

open DecimalDigits

def digitChar (d : Nat) : Char := Char.ofNat ('0'.toNat + d)

def digitAt (ds : List Nat) (j : Int) : Nat :=
  if 0 ≤ j then ds.getD j.toNat 0 else 0

def scientific (d : DecimalDigits) : String :=
  let first := digitChar (d.digits.headD 0)
  let rest := d.digits.drop 1
  let mantissa :=
    if rest.isEmpty then first.toString
    else first.toString ++ "." ++ String.ofList (rest.map digitChar)
  let exp : Int := if d.digits.isEmpty then 0 else d.point - 1
  let sign := if exp < 0 then "-" else "+"
  let magnitude := exp.natAbs
  let expDigits := if magnitude < 10 then "0" ++ toString magnitude else toString magnitude
  mantissa ++ "e" ++ sign ++ expDigits

def positionalWith (d : DecimalDigits) (places : Nat) : String :=
  let whole :=
    if d.point > 0 then
      String.ofList ((List.range d.point.toNat).map (fun j : Nat => digitChar (digitAt d.digits (j : Int))))
    else "0"
  if places = 0 then whole
  else
    whole ++ "." ++ String.ofList
      ((List.range places).map (fun i : Nat => digitChar (digitAt d.digits (d.point + (i : Int)))))

def positional (d : DecimalDigits) : String :=
  positionalWith d (d.digits.length - d.point).toNat

/-- General notation: positional for decimal exponents from `-4` to `5`, else exponent
notation. -/
def general (d : DecimalDigits) : String :=
  let exp := d.point - 1
  if exp < -4 ∨ exp ≥ 6 then scientific d else positional d

def signed (negative : Bool) (body : String) : String :=
  if negative then "-" ++ body else body

def ofFloat (x : Float) : String :=
  match Binary64.ofFloat x with
  | .nan => "NaN"
  | .infinite negative => if negative then "-Inf" else "+Inf"
  | .finite negative m e halved => signed negative (general (shortest m e halved))

def positionalFloat (x : Float) : String :=
  match Binary64.ofFloat x with
  | .nan => "NaN"
  | .infinite negative => if negative then "-Inf" else "+Inf"
  | .finite negative m e halved => signed negative (positional (shortest m e halved))

/-- A finite double in the JSON layout; `none` for not-a-number and the infinities, which JSON
cannot hold. -/
def json? (x : Float) : Option String :=
  match Binary64.ofFloat x with
  | .nan => none
  | .infinite _ => none
  | .finite negative m e halved =>
    let d := shortest m e halved
    -- The bounds are doubles: the double nearest to 1e-6 lies a little below one millionth.
    let usesExponent := m ≠ 0 ∧ (x.abs < 1e-6 ∨ x.abs ≥ 1e21)
    if usesExponent then
      let text := scientific d
      -- A negative exponent loses its leading zero: `e-07` becomes `e-7`.
      let chars := text.toList
      let n := chars.length
      let cleaned :=
        if n ≥ 4 ∧ chars.getD (n - 4) ' ' = 'e' ∧ chars.getD (n - 3) ' ' = '-' ∧
            chars.getD (n - 2) ' ' = '0' then
          String.ofList (chars.take (n - 2) ++ [chars.getD (n - 1) '0'])
        else text
      some (signed negative cleaned)
    else some (signed negative (positional d))

def fixed (x : Float) (places : Nat) : String :=
  match Binary64.ofFloat x with
  | .nan => "NaN"
  | .infinite negative => if negative then "-Inf" else "+Inf"
  | .finite negative m e _ =>
    let r := roundedScaled ((Ratio.mk m 1).mul (Ratio.pow2 e)) places
    let whole := r / Nat.pow 10 places
    let frac := r % Nat.pow 10 places
    let fracText := toString frac
    let body :=
      if places = 0 then toString whole
      else toString whole ++ "." ++
        String.ofList (List.replicate (places - fracText.length) '0') ++ fracText
    signed negative body

end WikiDump.Notation


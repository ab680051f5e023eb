import Spreadsheet.Decimal.Rounded

/-!
The floating-point number nearest to a decimal. Exponents far outside the range of
floating-point numbers are settled before any power of ten is built, so that a short text with a
huge exponent costs nothing.
-/

set_option autoImplicit false

namespace Spreadsheet.Decimal

/-- The floating-point number nearest to `digits · 10 ^ exponent`, infinity when that is too
large. The leading digit of the decimal stands at `digitCount digits + exponent`; from 400 on it
is beyond every finite number, and below -400 it is nearest to zero. -/
def nearestFloat (decimal : Scaled) : Float :=
  let leading := digitCount decimal.digits + decimal.exponent
  if decimal.digits = 0 then 0.0
  else if 400 < leading then 1.0 / 0.0
  else if leading < -400 then 0.0
  else
    match decimal.exponent with
    | .ofNat up => Float.ofScientific decimal.digits false up
    | .negSucc down => Float.ofScientific decimal.digits true (down + 1)

/-- The nearest number with as many significant decimal digits; infinities, NaN and zeros stay.
It takes the noise of binary fractions away: `100.49999999999999` becomes `100.5`. -/
def trimmed (count : Nat) (x : Float) : Float :=
  let p := Binary64.parts x
  if !x.isFinite || p.significand = 0 then x
  else
    let magnitude := nearestFloat (significant count p.numerator p.denominator)
    if p.negative then -magnitude else magnitude

end Spreadsheet.Decimal

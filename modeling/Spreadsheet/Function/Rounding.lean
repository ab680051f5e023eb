import Spreadsheet.Function.Arithmetic
import Spreadsheet.Decimal.Nearest

/-!
Rounding to a number of decimal digits; a negative number of digits rounds to the left of the
point. An integer with no digit to lose stays as it is. Everything else is scaled by a power of
ten, trimmed to fifteen significant digits so that binary noise does not decide, rounded to a
whole number and scaled back. With no digit after the point the result is an integer if it is
short.
-/

set_option autoImplicit false

namespace Spreadsheet

def Binary64.powerBySquaring (base result : Float) (exponent : Nat) : Float :=
  if exponent = 0 then result
  else
    powerBySquaring (base * base) (if exponent % 2 = 1 then result * base else result)
      (exponent / 2)
termination_by exponent

/-- The scale of a number of digits. It is not always the number nearest to the power of ten. -/
def Binary64.powerOfTen (exponent : Nat) : Float :=
  powerBySquaring 10.0 1.0 exponent

namespace Number

/-- The rounded number in scaled arithmetic. A number too large to be scaled has no digits
after the point. -/
def roundScaled (mode : Binary64.Rounding) (x : Float) (digits : Int) : Outcome Number :=
  let settle (rounded : Float) : Outcome Number :=
    if digits ≤ 0 then wholeOrFloat (rounded + 0.0) else ofFloat (rounded + 0.0)
  if 0 ≤ digits then
    let scale := Binary64.powerOfTen digits.toNat
    let scaled := x * scale
    if scaled.isFinite then
      settle (Binary64.round mode (Decimal.trimmed 15 scaled) / scale)
    else ofFloat x
  else
    let scale := Binary64.powerOfTen (-digits).toNat
    settle (Binary64.round mode (Decimal.trimmed 15 (x / scale)) * scale)

def roundTo (mode : Binary64.Rounding) (number : Number) (digits : Int) : Outcome Number :=
  match number with
  | .int n => if 0 ≤ digits then .ok (.int n) else roundScaled mode number.toFloat digits
  | other => roundScaled mode other.toFloat digits

theorem roundTo_int (mode : Binary64.Rounding) (n : Int64) {digits : Int} (h : 0 ≤ digits) :
    roundTo mode (.int n) digits = .ok (.int n) := by
  simp [roundTo, h]

end Number

namespace Function

def rounding (mode : Binary64.Rounding) : Rule := fun _ arguments => do
  let number ← (← argument arguments 0).toNumber
  let digits ← digitCount arguments 1
  return .number (← number.roundTo mode digits)

end Function

end Spreadsheet

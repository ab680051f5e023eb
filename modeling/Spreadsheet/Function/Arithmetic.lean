import Spreadsheet.Function

/-!
Sums, products, extremes, remainders, powers and magnitudes. Every argument is read as a number
before anything is computed. The least and the greatest argument are found by comparing as
floating-point numbers, and the argument itself is the result; of equally great ones it is the
first.
-/

set_option autoImplicit false

namespace Spreadsheet

namespace Number

def sum (numbers : List Number) : Outcome Number :=
  numbers.foldlM add (.int 0)

def product (numbers : List Number) : Outcome Number :=
  numbers.foldlM multiply (.int 1)

/-- The first number that no later one replaces. -/
def extreme (replaces : Float → Float → Bool) : List Number → Outcome Number
  | [] => .error (.function .noValues)
  | first :: rest =>
      .ok (rest.foldl (fun best n => if replaces n.toFloat best.toFloat then n else best) first)

def minimum : List Number → Outcome Number :=
  extreme fun candidate best => candidate < best

def maximum : List Number → Outcome Number :=
  extreme fun candidate best => best < candidate

/-- The remainder of two integers with the sign of the divisor, unless their quotient does not
fit. -/
def exactRemainder? : Number → Number → Option Number
  | .int a, .int b =>
      match ofInt? (a.toInt.tdiv b.toInt) with
      | some _ => ofInt? (a.toInt.fmod b.toInt)
      | none => none
  | _, _ => none

def remainder (number divisor : Number) : Outcome Number :=
  if divisor.isZero then .error (.function .divisionByZero)
  else
    match exactRemainder? number divisor with
    | some n => .ok n
    | none =>
        let n := number.toFloat
        let d := divisor.toFloat
        ofFloat (n - d * Binary64.round .down (n / d))

def magnitude : Number → Outcome Number
  | .int n =>
      match ofInt? n.toInt.natAbs with
      | some m => .ok m
      | none => ofFloat (Float.ofInt n.toInt).abs
  | other => ofFloat other.toFloat.abs

end Number

namespace Function

def ofNumbers (compute : List Number → Outcome Number) : Rule := fun _ arguments => do
  let result ← compute (← numbers arguments)
  return .number result

/-- A function of two arguments as numbers. The first is read before the second is looked for. -/
def ofTwoNumbers (compute : Number → Number → Outcome Number) : Rule := fun _ arguments => do
  let first ← (← argument arguments 0).toNumber
  let second ← (← argument arguments 1).toNumber
  return .number (← compute first second)

def sum : Rule := ofNumbers Number.sum

def product : Rule := ofNumbers Number.product

def minimum : Rule := ofNumbers Number.minimum

def maximum : Rule := ofNumbers Number.maximum

def remainder : Rule := ofTwoNumbers Number.remainder

def power : Rule := fun _ arguments => do
  let base ← argument arguments 0
  let exponent ← argument arguments 1
  base.applyBinary .power exponent

def magnitude : Rule := fun _ arguments => do
  let n ← (← argument arguments 0).toNumber
  return .number (← n.magnitude)

end Function

end Spreadsheet

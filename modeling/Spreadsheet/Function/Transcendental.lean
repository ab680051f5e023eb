import Spreadsheet.Function

/-!
Roots, exponentials, logarithms and the functions of angles. They compute with floating-point
numbers; arguments for which there is no real result are refused.
-/

set_option autoImplicit false

namespace Spreadsheet.Function

def ofFloat (compute : Float → Float) : Rule := fun _ arguments => do
  let x ← (← argument arguments 0).toFloat
  return .number (← Number.ofFloat (compute x))

def constant (x : Float) : Rule := fun _ _ =>
  .ok (.number (.float x))

def squareRoot : Rule := fun _ arguments => do
  let x ← (← argument arguments 0).toFloat
  if x < 0.0 then throw (.function .negativeSquareRoot)
  return .number (← Number.ofFloat x.sqrt)

def positive (value : Value) : Outcome Float := do
  let x ← value.toFloat
  if x ≤ 0.0 then throw (.function (.nonPositiveLogarithm value))
  return x

def logarithm (compute : Float → Float) : Rule := fun _ arguments => do
  let x ← positive (← argument arguments 0)
  return .number (← Number.ofFloat (compute x))

/-- The logarithm to the base of the second argument, or to the base ten without one. -/
def logarithmTo : Rule := fun _ arguments => do
  let x ← positive (← argument arguments 0)
  match arguments[1]? with
  | none => return .number (← Number.ofFloat x.log10)
  | some base => do
      let b ← positive base
      if b == 1.0 then throw (.function .logarithmBaseOne)
      return .number (← Number.ofFloat (x.log / b.log))

/-- The angle of a point. The first argument is its height. -/
def angle : Rule := fun _ arguments => do
  let y ← (← argument arguments 0).toFloat
  let x ← (← argument arguments 1).toFloat
  return .number (← Number.ofFloat (Float.atan2 y x))

end Spreadsheet.Function

import Spreadsheet.Function

/-!
Random functions. Each call takes the first of the draws that are still to come. An integer is drawn
between two bounds, which are checked before.
-/

set_option autoImplicit false

namespace Spreadsheet

namespace Function

/-- A whole bound as an integer of 64 bits. The next whole number above these counts as the largest
of them. -/
def drawnBound (bound : Float) : Int64 :=
  Int64.ofInt (min (Binary64.toInt bound) 9223372036854775807)

/-- An integer between two bounds, both included. The bounds are rounded towards each other. -/
def randomInteger : Rule := fun context arguments => do
  let low ← argument arguments 0
  let high ← argument arguments 1
  let bottom := Binary64.round .up (← low.toFloat)
  let top := Binary64.round .down (← high.toFloat)
  if top < bottom then throw (.function (.emptyDraw low high))
  if bottom < -9223372036854775808.0 || 9223372036854775808.0 < top then
    throw (.function .drawOutOfRange)
  return .number (.int ((context.draws 0).integer (drawnBound bottom) (drawnBound top)))

def randomFraction : Rule := fun context _ =>
  .ok (.number (.float (context.draws 0).fraction))

end Function

end Spreadsheet

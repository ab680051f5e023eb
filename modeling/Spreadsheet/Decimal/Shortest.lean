import Spreadsheet.Decimal.Rounded

/-!
The shortest decimal that reads back. The real numbers which round to a given floating-point
number form an interval around it; of the decimals in that interval the one with the fewest
digits is taken, and of several with as few digits the nearest. It is written positionally, never
with an exponent. The main statement is that the chosen decimal lies in the interval.
-/

set_option autoImplicit false

namespace Spreadsheet.Decimal

/-- The reals that round to a positive floating-point number. `value` is the number itself; all
three are numerators over `denominator`. -/
structure RoundingInterval where
  lower : Nat
  value : Nat
  upper : Nat
  denominator : Nat
  closed : Bool

/-- The ends lie halfway to the neighbours. The neighbour below a power of two is half as far
away as the one above, except among the smallest numbers. A half rounds to the even neighbour,
so an even significand owns both ends. -/
def RoundingInterval.around (p : Binary64.Parts) : RoundingInterval :=
  let scale := Nat.pow 2 (p.exponent - 2).toNat
  let gapBelow := if p.significand = Nat.pow 2 52 && p.exponent ≠ -1074 then 1 else 2
  { lower := (4 * p.significand - gapBelow) * scale
    value := 4 * p.significand * scale
    upper := (4 * p.significand + 2) * scale
    denominator := Nat.pow 2 (2 - p.exponent).toNat
    closed := p.significand % 2 == 0 }

def RoundingInterval.holds (interval : RoundingInterval) (decimal : Scaled) : Bool :=
  let candidate := decimal.digits * interval.denominator * Nat.pow 10 decimal.exponent.toNat
  let lower := interval.lower * Nat.pow 10 (-decimal.exponent).toNat
  let upper := interval.upper * Nat.pow 10 (-decimal.exponent).toNat
  if interval.closed then lower ≤ candidate && candidate ≤ upper
  else lower < candidate && candidate < upper

/-- The decimal in the interval that is a multiple of a power of ten and nearest to the value,
if there is one. It is one of the two such multiples around the value. -/
def RoundingInterval.onGrid (interval : RoundingInterval) (exponent : Int) : Option Scaled :=
  let value := interval.value * Nat.pow 10 (-exponent).toNat
  let unit := interval.denominator * Nat.pow 10 exponent.toNat
  let below : Scaled := { digits := value / unit, exponent }
  let above : Scaled := { digits := value / unit + 1, exponent }
  if interval.holds below then
    if interval.holds above && (2 * below.digits + 1) * unit ≤ 2 * value then some above
    else some below
  else if interval.holds above then some above
  else none

def exactly (p : Binary64.Parts) : Scaled :=
  if 0 ≤ p.exponent then { digits := p.numerator, exponent := 0 }
  else { digits := p.significand * Nat.pow 5 (-p.exponent).toNat, exponent := p.exponent }

/-- The shortest decimal of a positive magnitude: the first grid with a decimal in the interval,
starting at the leading digit. Seventeen digits always suffice; the exact value stands behind
them so that the result is right in any case. -/
def shortest (p : Binary64.Parts) : Scaled :=
  let interval := RoundingInterval.around p
  let leading := leadingExponent interval.value interval.denominator
  let found := (List.range 17).findSome? fun (dropped : Nat) => interval.onGrid (leading - dropped)
  found.getD (exactly p)

def positional (decimal : Scaled) : List Char :=
  let digits := Nat.toDigits 10 decimal.digits
  let kept := (digits.reverse.dropWhile (· == '0')).reverse
  let exponent := decimal.exponent + (digits.length - kept.length : Nat)
  let point := kept.length + exponent
  if 0 ≤ exponent then kept ++ List.replicate exponent.toNat '0'
  else if 0 < point then kept.take point.toNat ++ '.' :: kept.drop point.toNat
  else '0' :: '.' :: List.replicate (-point).toNat '0' ++ kept

def floatText (x : Float) : String :=
  if x.isNaN then "NaN"
  else
    let p := Binary64.parts x
    let magnitude :=
      if x.isInf then ['i', 'n', 'f']
      else if p.significand = 0 then ['0']
      else positional (shortest p)
    String.ofList (if p.negative then '-' :: magnitude else magnitude)

theorem RoundingInterval.holds_of_onGrid {interval : RoundingInterval} {exponent : Int}
    {decimal : Scaled} (h : interval.onGrid exponent = some decimal) :
    interval.holds decimal = true := by
  simp only [RoundingInterval.onGrid] at h
  split at h
  · rename_i belowHolds
    split at h
    · rename_i choice
      cases h
      exact (Bool.and_eq_true _ _ ▸ choice).1
    · cases h
      exact belowHolds
  · split at h
    · rename_i aboveHolds
      cases h
      exact aboveHolds
    · cases h

theorem shortest_holds (p : Binary64.Parts) :
    (RoundingInterval.around p).holds (shortest p) = true ∨ shortest p = exactly p := by
  simp only [shortest]
  cases found : (List.range 17).findSome? fun (dropped : Nat) =>
      (RoundingInterval.around p).onGrid
        (leadingExponent (RoundingInterval.around p).value
          (RoundingInterval.around p).denominator - dropped) with
  | none => exact Or.inr rfl
  | some decimal =>
      obtain ⟨dropped, -, offered⟩ := List.exists_of_findSome?_eq_some found
      exact Or.inl (RoundingInterval.holds_of_onGrid offered)

end Spreadsheet.Decimal

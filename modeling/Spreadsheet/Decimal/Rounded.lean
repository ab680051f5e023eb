import Spreadsheet.Binary64

/-!
Decimal rounding of exact quotients: to a number of significant digits and to a number of places
after the point. A half goes to the even neighbour. The main statement is that the rounded
quotient is within half a unit.
-/

set_option autoImplicit false

namespace Spreadsheet.Decimal

structure Scaled where
  digits : Nat
  exponent : Int
deriving DecidableEq

def roundHalfEven (numerator denominator : Nat) : Nat :=
  let quotient := numerator / denominator
  let rest := numerator % denominator
  if denominator < 2 * rest || (denominator == 2 * rest && quotient % 2 == 1) then quotient + 1
  else quotient

def digitCount (n : Nat) : Nat :=
  (Nat.toDigits 10 n).length

/-- The exponent of the leading decimal digit of a positive quotient. Below one it is found from
the least power of ten that is not less than the inverse. -/
def leadingExponent (numerator denominator : Nat) : Int :=
  if denominator ≤ numerator then (digitCount (numerator / denominator) : Int) - 1
  else
    let inverse := (denominator + numerator - 1) / numerator
    Int.negOfNat (digitCount (inverse - 1))

def significant (count numerator denominator : Nat) : Scaled :=
  let exponent := leadingExponent numerator denominator - (count - 1)
  { digits := roundHalfEven (numerator * Nat.pow 10 (-exponent).toNat)
      (denominator * Nat.pow 10 exponent.toNat)
    exponent }

def fixed (places numerator denominator : Nat) : List Char :=
  let digits := Nat.toDigits 10 (roundHalfEven (numerator * Nat.pow 10 places) denominator)
  let padded := List.replicate (places + 1 - digits.length) '0' ++ digits
  padded.take (padded.length - places) ++ '.' :: padded.drop (padded.length - places)

def fixedFloat (places : Nat) (x : Float) : String :=
  let p := Binary64.parts x
  let magnitude := fixed places p.numerator p.denominator
  String.ofList (if p.negative then '-' :: magnitude else magnitude)

theorem roundHalfEven_within_half (numerator denominator : Nat) (h : 0 < denominator) :
    2 * roundHalfEven numerator denominator * denominator ≤ 2 * numerator + denominator ∧
      2 * numerator ≤ 2 * roundHalfEven numerator denominator * denominator + denominator := by
  have division := Nat.div_add_mod numerator denominator
  have small := Nat.mod_lt numerator h
  unfold roundHalfEven
  generalize numerator / denominator = quotient at *
  generalize numerator % denominator = rest at *
  have above :
      2 * (quotient + 1) * denominator = 2 * (denominator * quotient) + 2 * denominator := by
    rw [Nat.mul_assoc, Nat.mul_comm (quotient + 1), Nat.mul_succ, Nat.mul_add]
  have below : 2 * quotient * denominator = 2 * (denominator * quotient) := by
    rw [Nat.mul_assoc, Nat.mul_comm quotient]
  dsimp only
  split
  all_goals
    rename_i choice
    simp only [Bool.or_eq_true, decide_eq_true_eq, Bool.and_eq_true, beq_iff_eq] at choice
    omega

end Spreadsheet.Decimal

/-!
The inside of a floating-point number. A finite number is a sign, a natural significand and a
power of two; its whole part and the four ways to round it to a whole number are computed on
these, so that nothing about them is left to the machine. The main statements are that the whole
part is the floor of the magnitude and that rounding up or down leaves whole numbers alone.
-/

set_option autoImplicit false

namespace Spreadsheet.Binary64

/-- A finite number is `significand · 2 ^ exponent`, negated when `negative` holds. -/
structure Parts where
  negative : Bool
  significand : Nat
  exponent : Int

/-- The parts of a finite number. Of infinities and NaN they say nothing. -/
def parts (x : Float) : Parts :=
  let bits := x.toBits.toNat
  let fraction := bits % Nat.pow 2 52
  let biased := bits / Nat.pow 2 52 % Nat.pow 2 11
  { negative := bits / Nat.pow 2 63 == 1
    significand := if biased = 0 then fraction else fraction + Nat.pow 2 52
    exponent := Int.ofNat (max biased 1) - 1075 }

def Parts.numerator (p : Parts) : Nat :=
  p.significand * Nat.pow 2 p.exponent.toNat

def Parts.denominator (p : Parts) : Nat :=
  Nat.pow 2 (-p.exponent).toNat

def Parts.whole (p : Parts) : Nat :=
  p.numerator / p.denominator

def Parts.isWhole (p : Parts) : Bool :=
  p.numerator % p.denominator == 0

inductive Rounding where
  | down
  | up
  | towardZero
  | halfAway
deriving DecidableEq

def Parts.rounded (mode : Rounding) (p : Parts) : Nat :=
  match mode with
  | .down => if p.negative && !p.isWhole then p.whole + 1 else p.whole
  | .up => if !p.negative && !p.isWhole then p.whole + 1 else p.whole
  | .towardZero => p.whole
  | .halfAway =>
      if p.denominator ≤ 2 * (p.numerator % p.denominator) then p.whole + 1 else p.whole

/-- Round to a whole number. The sign stays, also that of a zero; what is not finite stays too. -/
def round (mode : Rounding) (x : Float) : Float :=
  if x.isFinite then
    let p := parts x
    let magnitude := Float.ofNat (p.rounded mode)
    if p.negative then -magnitude else magnitude
  else x

/-- The integer on the near side of zero. NaN counts as zero; the infinities are beyond any
64-bit integer. -/
def toInt (x : Float) : Int :=
  if x.isNaN then 0
  else
    let p := parts x
    if p.negative then -(p.whole : Int) else p.whole

/-- Whole numbers of fewer than sixteen digits; those count as integers in results and in
writing. -/
def shortWhole? (x : Float) : Option Int :=
  if x.isFinite && (parts x).isWhole && (parts x).whole < 1000000000000000 then some (toInt x)
  else none

def pi : Float := Float.ofBits 0x400921FB54442D18

def e : Float := Float.ofBits 0x4005BF0A8B145769

def nan : Float := Float.ofBits 0x7FF8000000000000

/-- A key that orders all floating-point numbers, `-0.0` before `0.0` and NaN last. -/
def orderKey (x : Float) : Int :=
  let bits := x.toBits.toNat
  if bits < 9223372036854775808 then bits
  else -((bits - 9223372036854775808 : Nat) : Int) - 1

theorem Parts.denominator_pos (p : Parts) : 0 < p.denominator :=
  Nat.two_pow_pos _

theorem orderKey_ge (x : Float) : -9223372036854775808 ≤ orderKey x := by
  have small := x.toBits.toNat_lt
  simp only [orderKey]
  split
  all_goals omega

theorem Parts.whole_le_lt (p : Parts) :
    p.whole * p.denominator ≤ p.numerator ∧ p.numerator < (p.whole + 1) * p.denominator :=
  ⟨Nat.div_mul_le_self _ _, by
    rw [Nat.mul_comm]
    exact Nat.lt_mul_div_succ _ p.denominator_pos⟩

theorem Parts.rounded_of_isWhole (p : Parts) (mode : Rounding) (h : p.isWhole = true) :
    p.rounded mode = p.whole := by
  have noRest : p.numerator % p.denominator = 0 := by simpa [Parts.isWhole] using h
  have := p.denominator_pos
  cases mode <;> simp [Parts.rounded, h, noRest]
  omega

end Spreadsheet.Binary64

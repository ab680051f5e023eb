import Spreadsheet.Proofs.Binary64.Whole

/-!
The rounding of arithmetic. A result is computed as the whole part of a quotient, with what is
left over, and rounded by shifting: the last digit that falls out is kept and whether anything fell
out before it. A whole result is a quotient by one.

The main statements are that a quotient whose whole part has all digits of a significand is rounded
to the nearest number without surplus digits, and a whole number, however many zeros it is extended
by, as well.
-/

set_option autoImplicit false

namespace Spreadsheet.Binary64

open Float.Model (Format UnpackedFloat)
open Float.Model.UnpackedFloat

namespace Parts

def ofDyadic (negative : Bool) (whole : Nat) (exponent : Int) : Parts :=
  { ofWhole negative whole with
    exponent := if whole = 0 then -1074 else whole.log2 - 52 + exponent }

variable (negative : Bool) {whole : Nat}

theorem ofDyadic_zero (whole : Nat) : ofDyadic negative whole 0 = ofWhole negative whole := by
  unfold ofDyadic ofWhole
  rw [Int.add_zero]

theorem exponent_ofDyadic (nonzero : whole ≠ 0) (exponent : Int) :
    (ofDyadic negative whole exponent).exponent = whole.log2 - 52 + exponent :=
  if_neg nonzero

theorem ofDyadic_mul_two_pow (nonzero : whole ≠ 0) (zeros : Nat) (exponent : Int) :
    ofDyadic negative (whole * 2 ^ zeros) exponent =
      ofDyadic negative whole (exponent + zeros) := by
  have factor : whole * 2 ^ zeros ≠ 0 := Nat.mul_ne_zero nonzero (Nat.ne_of_gt (Nat.two_pow_pos _))
  have significand := significand_mul_two_pow negative nonzero zeros
  have exponents : ((whole * 2 ^ zeros).log2 : Int) - 52 + exponent =
      whole.log2 - 52 + (exponent + zeros) := by
    rw [log2_mul_two_pow nonzero]
    omega
  unfold ofDyadic
  rw [if_neg factor, if_neg nonzero, exponents]
  exact congrArg (Parts.mk negative · _) significand

end Parts

section Shifting

/-- The whole part of a quotient without its last digits, and what is remembered of the rest. -/
def shifted (numerator denominator places : Nat) : ExtendedMantissa :=
  ExtendedMantissa.ofMantissaAndAccuracy (numerator / denominator)
    (accuracyOfFraction (numerator % denominator) denominator) >>> places

variable {denominator : Nat}

/-- Shifting leaves the quotient, and the two bits show whether anything is left over. -/
theorem shifted_fields (numerator : Nat) (positive : 0 < denominator) (places : Nat) :
    (shifted numerator denominator places).mantissa = numerator / (denominator * 2 ^ places) ∧
      ((shifted numerator denominator places).roundBit ||
          (shifted numerator denominator places).stickyBit) =
        decide (numerator % (denominator * 2 ^ places) ≠ 0) := by
  induction places with
  | zero =>
      rw [Nat.pow_zero, Nat.mul_one]
      change (ExtendedMantissa.ofMantissaAndAccuracy (numerator / denominator) _).mantissa = _ ∧
        ((ExtendedMantissa.ofMantissaAndAccuracy (numerator / denominator) _).roundBit ||
          (ExtendedMantissa.ofMantissaAndAccuracy (numerator / denominator) _).stickyBit) = _
      unfold accuracyOfFraction
      by_cases exact : numerator % denominator = 0
      · rw [if_pos exact, exact]
        exact ⟨rfl, rfl⟩
      · rw [if_neg exact, decide_eq_true exact]
        cases compare (2 * (numerator % denominator)) denominator <;> exact ⟨rfl, rfl⟩
  | succ places ih =>
      obtain ⟨quotient, bits⟩ := ih
      have unit := Nat.mul_pos positive (Nat.two_pow_pos places)
      rw [Nat.pow_succ, ← Nat.mul_assoc]
      generalize denominator * 2 ^ places = shiftedDenominator at quotient bits unit ⊢
      constructor
      · change (shifted numerator denominator places).mantissa / 2 = _
        rw [quotient, Nat.div_div_eq_div_mul]
      · change ((shifted numerator denominator places).mantissa % 2 != 0 ||
          ((shifted numerator denominator places).roundBit ||
            (shifted numerator denominator places).stickyBit)) = _
        rw [quotient, bits, Nat.mod_mul]
        rcases Nat.mod_two_eq_zero_or_one (numerator / shiftedDenominator) with even | odd
        · rw [even, Nat.mul_zero, Nat.add_zero]
          rfl
        · rw [odd, Nat.mul_one]
          exact (decide_eq_true (by omega)).symm

theorem roundedMantissa_eq (mantissa : Nat) (half rest : Bool) :
    (ExtendedMantissa.mk mantissa half rest).roundedMantissa =
      if half = true ∧ (rest = true ∨ mantissa % 2 = 1) then mantissa + 1 else mantissa := by
  cases half with
  | false => cases rest <;> rfl
  | true =>
      cases rest with
      | false =>
          change mantissa + mantissa % 2 = _
          simp only [Bool.false_eq_true, false_or, true_and]
          split <;> omega
      | true => rfl

theorem roundedMantissa_unshifted (numerator denominator : Nat) :
    (shifted numerator denominator 0).roundedMantissa =
      Decimal.roundHalfEven numerator denominator := by
  change (ExtendedMantissa.ofMantissaAndAccuracy (numerator / denominator)
    (accuracyOfFraction (numerator % denominator) denominator)).roundedMantissa = _
  rw [Decimal.roundHalfEven_eq, accuracyOfFraction]
  by_cases exact : numerator % denominator = 0
  · rw [if_pos exact]
    change numerator / denominator = _
    split
    · rename_i half
      have none : denominator = 0 ∧ numerator / denominator % 2 = 1 := by omega
      rw [none.1, Nat.div_zero] at none
      exact absurd none.2 (by decide)
    · rfl
  · rw [if_neg exact]
    rcases Nat.lt_trichotomy (2 * (numerator % denominator)) denominator with less | half | more
    · rw [Nat.compare_eq_lt.2 less, if_neg (by omega)]
      rfl
    · rw [Nat.compare_eq_eq.2 half]
      change numerator / denominator + numerator / denominator % 2 = _
      split <;> omega
    · rw [Nat.compare_eq_gt.2 more, if_pos (Or.inl more)]
      rfl

theorem roundedMantissa_shifted (numerator : Nat) (positive : 0 < denominator) (places : Nat) :
    (shifted numerator denominator places).roundedMantissa =
      Decimal.roundHalfEven numerator (denominator * 2 ^ places) := by
  cases places with
  | zero => rw [roundedMantissa_unshifted, Nat.pow_zero, Nat.mul_one]
  | succ places =>
      obtain ⟨quotient, bits⟩ := shifted_fields numerator positive places
      have unit := Nat.mul_pos positive (Nat.two_pow_pos places)
      rw [Nat.pow_succ, ← Nat.mul_assoc]
      generalize denominator * 2 ^ places = shiftedDenominator at quotient bits unit ⊢
      have last : shifted numerator denominator (places + 1) =
          { mantissa := numerator / shiftedDenominator / 2
            roundBit := numerator / shiftedDenominator % 2 != 0
            stickyBit := decide (numerator % shiftedDenominator ≠ 0) } := by
        rw [← quotient, ← bits]
        rfl
      have below := Nat.mod_lt numerator unit
      have sameChoice : ((numerator / shiftedDenominator % 2 != 0) = true ∧
            (decide (numerator % shiftedDenominator ≠ 0) = true ∨
              numerator / shiftedDenominator / 2 % 2 = 1)) ↔
          shiftedDenominator * 2 < 2 * (numerator % shiftedDenominator +
              shiftedDenominator * (numerator / shiftedDenominator % 2)) ∨
            shiftedDenominator * 2 = 2 * (numerator % shiftedDenominator +
                shiftedDenominator * (numerator / shiftedDenominator % 2)) ∧
              numerator / shiftedDenominator / 2 % 2 = 1 := by
        rw [bne_iff_ne, decide_eq_true_eq]
        rcases Nat.mod_two_eq_zero_or_one (numerator / shiftedDenominator) with even | odd
        · rw [even]
          omega
        · rw [odd]
          omega
      rw [last, roundedMantissa_eq, Decimal.roundHalfEven_eq, Nat.mod_mul,
        ← Nat.div_div_eq_div_mul]
      simp only [sameChoice]

end Shifting

theorem shiftToTargetExponent_eq {numerator denominator : Nat} {exponent : Int}
    (normal : -1074 ≤ (numerator / denominator).log2 + exponent - 52) :
    shiftToTargetExponent Format.binary64 (numerator / denominator) exponent
        (accuracyOfFraction (numerator % denominator) denominator) =
      (shifted numerator denominator (surplusDigits (numerator / denominator)),
        exponent + surplusDigits (numerator / denominator)) := by
  have target : Format.binary64.targetExponent
      (Float.Model.totalExponent (numerator / denominator) exponent) =
        (numerator / denominator).log2 + exponent - 52 := by
    change max (((numerator / denominator).log2 : Int) + 1 + exponent - (53 : Nat)) (-1074) = _
    omega
  have places : ((numerator / denominator).log2 + exponent - 52 - exponent).toNat =
      surplusDigits (numerator / denominator) := by
    unfold surplusDigits
    omega
  rw [shiftToTargetExponent, target, shiftToExponent, places]
  rfl

theorem shiftToTargetExponent_whole {whole : Nat} {exponent : Int}
    (normal : -1074 ≤ whole.log2 + exponent - 52) :
    shiftToTargetExponent Format.binary64 whole exponent .exact =
      (shifted whole 1 (surplusDigits whole), exponent + surplusDigits whole) := by
  have quotient := @shiftToTargetExponent_eq whole 1 exponent
  rw [Nat.div_one, Nat.mod_one] at quotient
  exact quotient normal

/-- A long quotient is rounded to the nearest number without surplus digits: its surplus digits are
dropped, and if the mantissa then has one digit more, that is a zero. -/
theorem roundWithAccuracy_quotient (negative : Bool) {numerator denominator : Nat} {exponent : Int}
    (long : 52 ≤ (numerator / denominator).log2)
    (normal : -1022 ≤ (numerator / denominator).log2 + exponent) :
    roundWithAccuracy Format.binary64 (if negative then .negative else .positive)
        (numerator / denominator) exponent
        (accuracyOfFraction (numerator % denominator) denominator) =
      (Parts.ofDyadic negative (nearestQuotient numerator denominator) exponent).unpacked := by
  have large := div_ne_zero_of_long long
  have positive := pos_of_div_ne_zero large
  have low := (nearestQuotient_bounds large).1
  have nonzero := nearestQuotient_ne_zero large
  have shape : Decimal.roundHalfEven numerator
      (denominator * 2 ^ surplusDigits (numerator / denominator)) *
        2 ^ surplusDigits (numerator / denominator) = nearestQuotient numerator denominator := rfl
  have digits : surplusDigits (numerator / denominator) = (numerator / denominator).log2 - 52 := rfl
  have first := @shiftToTargetExponent_eq numerator denominator exponent (by omega)
  generalize surplusDigits (numerator / denominator) = surplus at shape digits first
  have rounded := roundedMantissa_shifted numerator positive surplus
  generalize Decimal.roundHalfEven numerator (denominator * 2 ^ surplus) = mantissa at shape rounded
  have mantissaNonzero : mantissa ≠ 0 := by
    rintro rfl
    rw [Nat.zero_mul] at shape
    exact nonzero shape.symm
  have mantissaDigits : mantissa.log2 + surplus = (nearestQuotient numerator denominator).log2 := by
    rw [← shape, log2_mul_two_pow mantissaNonzero]
  have mantissaLong : 52 ≤ mantissa.log2 := by
    have := (Nat.le_log2 nonzero).2 low
    omega
  have second := @shiftToTargetExponent_whole mantissa (exponent + surplus) (by
    have := (Nat.le_log2 nonzero).2 low
    omega)
  have final : (shifted mantissa 1 (surplusDigits mantissa)).mantissa =
      (Parts.ofWhole negative (nearestQuotient numerator denominator)).significand := by
    rw [(shifted_fields mantissa Nat.one_pos _).1, Nat.one_mul, ← shape,
      Parts.significand_mul_two_pow negative mantissaNonzero,
      Parts.significand_of_long negative mantissaLong]
  have someDigit : (Parts.ofDyadic negative (nearestQuotient numerator denominator)
      exponent).significand ≠ 0 :=
    Nat.ne_of_gt (Nat.lt_of_lt_of_le (Nat.two_pow_pos 52)
      (Parts.significand_bounds negative nonzero).1)
  rw [roundWithAccuracy, first]
  dsimp only
  rw [rounded, second, Parts.unpacked_of_nonzero someDigit]
  refine (dif_neg (final ▸ someDigit)).trans (finite_congr final ?_)
  rw [Parts.exponent_ofDyadic negative nonzero, ← mantissaDigits]
  dsimp only
  unfold surplusDigits
  omega

theorem roundWithAccuracy_exact (negative : Bool) {whole : Nat} {exponent : Int}
    (long : 52 ≤ whole.log2) (normal : -1022 ≤ whole.log2 + exponent) :
    roundWithAccuracy Format.binary64 (if negative then .negative else .positive) whole exponent
        .exact =
      (Parts.ofDyadic negative (nearestNat whole) exponent).unpacked := by
  have quotient := @roundWithAccuracy_quotient negative whole 1 exponent
  rw [Nat.div_one, Nat.mod_one, nearestQuotient_one] at quotient
  exact quotient long normal

theorem roundWithAccuracy_whole {whole : Nat} (zeros : Nat) (nonzero : whole ≠ 0)
    (long : 52 ≤ whole.log2 + zeros) :
    roundWithAccuracy Format.binary64 .positive (whole * 2 ^ zeros) (-zeros) .exact =
      (Parts.ofWhole false (nearestNat whole)).unpacked := by
  have digits := log2_mul_two_pow nonzero zeros
  have rounded := @roundWithAccuracy_exact false (whole * 2 ^ zeros) (-zeros) (by omega) (by omega)
  rw [nearestNat_mul_two_pow, Parts.ofDyadic_mul_two_pow false (nearestNat_ne_zero nonzero),
    Int.add_left_neg, Parts.ofDyadic_zero] at rounded
  exact rounded

theorem ofDyadic_nearestNat_congr (negative : Bool) {m n zeros more : Nat} (nonzero : m ≠ 0)
    (same : m * 2 ^ zeros = n * 2 ^ more) (exponent : Int) :
    Parts.ofDyadic negative (nearestNat m) (exponent + zeros) =
      Parts.ofDyadic negative (nearestNat n) (exponent + more) := by
  have otherNonzero : n ≠ 0 := by
    rintro rfl
    rw [Nat.zero_mul] at same
    exact Nat.mul_ne_zero nonzero (Nat.ne_of_gt (Nat.two_pow_pos _)) same
  rw [← Parts.ofDyadic_mul_two_pow negative (nearestNat_ne_zero nonzero), ← nearestNat_mul_two_pow,
    same, nearestNat_mul_two_pow,
    Parts.ofDyadic_mul_two_pow negative (nearestNat_ne_zero otherNonzero)]

theorem mul_ofWhole (negative : Bool) {a b : Nat} (first : IsShort a) (second : IsShort b)
    (nonzero : b ≠ 0) :
    UnpackedFloat.mul Format.binary64 (Parts.ofWhole negative a).unpacked
        (Parts.ofWhole false b).unpacked =
      (Parts.ofWhole negative (nearestNat (a * b))).unpacked := by
  have sign : (if negative then Sign.negative else .positive) * .positive =
      if negative then .negative else .positive := by
    cases negative <;> rfl
  have lowSecond := (Parts.significand_bounds false nonzero).1
  have productSecond := Parts.significand_mul false second
  rw [Parts.unpacked_of_nonzero (p := Parts.ofWhole false b) (by omega)]
  by_cases zero : a = 0
  · rw [zero, Nat.zero_mul]
    exact congrArg UnpackedFloat.zero sign
  · have lowFirst := (Parts.significand_bounds negative zero).1
    have productFirst := Parts.significand_mul negative first
    rw [Parts.unpacked_of_nonzero (p := Parts.ofWhole negative a) (by omega)]
    change roundWithAccuracy Format.binary64
      ((if negative then Sign.negative else .positive) * .positive)
      ((Parts.ofWhole negative a).significand * (Parts.ofWhole false b).significand)
      ((Parts.ofWhole negative a).exponent + (Parts.ofWhole false b).exponent) .exact = _
    rw [sign, Parts.exponent_ofWhole negative zero, Parts.exponent_ofWhole false nonzero]
    generalize (Parts.ofWhole negative a).significand = m at lowFirst productFirst ⊢
    generalize (Parts.ofWhole false b).significand = n at lowSecond productSecond ⊢
    have low : 2 ^ 52 ≤ m * n := Nat.le_trans lowFirst (Nat.le_mul_of_pos_right m (by omega))
    have someDigit : m * n ≠ 0 := by omega
    have long : 52 ≤ (m * n).log2 := (Nat.le_log2 someDigit).2 low
    have product : m * n * 2 ^ (a.log2 + b.log2) = a * b * 2 ^ 104 := by
      rw [Nat.pow_add, Nat.mul_mul_mul_comm, productFirst, productSecond, Nat.mul_mul_mul_comm,
        ← Nat.pow_add]
    have exponents : (a.log2 : Int) - 52 + (b.log2 - 52) = -104 + (a.log2 + b.log2 : Nat) := by
      omega
    rw [roundWithAccuracy_exact negative long (by omega), exponents,
      ofDyadic_nearestNat_congr negative someDigit product]
    exact congrArg Parts.unpacked (Parts.ofDyadic_zero negative _)

end Spreadsheet.Binary64

import Mathlib.Algebra.Group.Nat.Defs
import Spreadsheet.Decimal.Rounded

/-!
Rounding a quotient to a natural number. A whole quotient is not rounded, a common factor of
numerator and denominator does not matter, and rounding keeps the order, so that a rounded quotient
stays within every whole bound of the quotient.
-/

set_option autoImplicit false

namespace Spreadsheet.Decimal

theorem roundHalfEven_eq (numerator denominator : Nat) :
    roundHalfEven numerator denominator =
      if denominator < 2 * (numerator % denominator) ∨
          denominator = 2 * (numerator % denominator) ∧ numerator / denominator % 2 = 1 then
        numerator / denominator + 1
      else numerator / denominator := by
  simp only [roundHalfEven, Bool.or_eq_true, decide_eq_true_eq, Bool.and_eq_true, beq_iff_eq]

theorem roundHalfEven_mul (whole : Nat) {denominator : Nat} (positive : 0 < denominator) :
    roundHalfEven (whole * denominator) denominator = whole := by
  have noRest : whole * denominator % denominator = 0 := Nat.mul_mod_left whole denominator
  rw [roundHalfEven_eq, noRest, Nat.mul_div_cancel whole positive, if_neg (by omega)]

theorem roundHalfEven_mul_right (numerator denominator : Nat) {factor : Nat}
    (positive : 0 < factor) :
    roundHalfEven (numerator * factor) (denominator * factor) =
      roundHalfEven numerator denominator := by
  have rest : 2 * (numerator * factor % (denominator * factor)) =
      2 * (numerator % denominator) * factor := by
    rw [Nat.mul_mod_mul_right, Nat.mul_assoc]
  simp only [roundHalfEven_eq, rest, Nat.mul_div_mul_right _ _ positive,
    Nat.mul_lt_mul_right positive, Nat.mul_left_inj (Nat.ne_of_gt positive)]

theorem roundHalfEven_mono {smaller larger : Nat} (denominator : Nat) (h : smaller ≤ larger) :
    roundHalfEven smaller denominator ≤ roundHalfEven larger denominator := by
  have ordered : smaller / denominator ≤ larger / denominator := Nat.div_le_div_right h
  have smallerParts := Nat.div_add_mod smaller denominator
  have largerParts := Nat.div_add_mod larger denominator
  rw [roundHalfEven_eq, roundHalfEven_eq]
  by_cases same : smaller / denominator = larger / denominator
  · rw [same] at smallerParts ⊢
    split <;> split <;> omega
  · split <;> split <;> omega

theorem roundHalfEven_le {numerator denominator bound : Nat} (positive : 0 < denominator)
    (h : numerator ≤ bound * denominator) : roundHalfEven numerator denominator ≤ bound :=
  roundHalfEven_mul bound positive ▸ roundHalfEven_mono denominator h

theorem le_roundHalfEven {numerator denominator bound : Nat} (positive : 0 < denominator)
    (h : bound * denominator ≤ numerator) : bound ≤ roundHalfEven numerator denominator :=
  roundHalfEven_mul bound positive ▸ roundHalfEven_mono denominator h

theorem roundHalfEven_le_of_mul_le {n d numerator denominator : Nat} (positive : 0 < d)
    (other : 0 < denominator) (h : n * denominator ≤ numerator * d) :
    roundHalfEven n d ≤ roundHalfEven numerator denominator := by
  rw [← roundHalfEven_mul_right n d other, ← roundHalfEven_mul_right numerator denominator positive,
    Nat.mul_comm denominator]
  exact roundHalfEven_mono _ h

theorem roundHalfEven_of_near {numerator denominator whole : Nat}
    (above : 2 * numerator < 2 * (whole * denominator) + denominator)
    (below : 2 * (whole * denominator) < 2 * numerator + denominator) :
    roundHalfEven numerator denominator = whole := by
  have positive : 0 < denominator := by omega
  obtain ⟨low, high⟩ := roundHalfEven_within_half numerator denominator positive
  generalize roundHalfEven numerator denominator = rounded at low high ⊢
  rw [Nat.mul_assoc] at low high
  rcases Nat.lt_trichotomy rounded whole with less | same | more
  · have := Nat.mul_le_mul_right denominator (Nat.succ_le_of_lt less)
    rw [Nat.succ_mul] at this
    omega
  · exact same
  · have := Nat.mul_le_mul_right denominator (Nat.succ_le_of_lt more)
    rw [Nat.succ_mul] at this
    omega

theorem toDigits_mul_pow_ten {n : Nat} (positive : 0 < n) (zeros : Nat) :
    Nat.toDigits 10 (n * 10 ^ zeros) = Nat.toDigits 10 n ++ List.replicate zeros '0' := by
  induction zeros with
  | zero => rw [Nat.pow_zero, Nat.mul_one, List.replicate_zero, List.append_nil]
  | succ zeros ih =>
      have shifted : n * 10 ^ (zeros + 1) = 10 * (n * 10 ^ zeros) + 0 := by
        rw [Nat.pow_succ, Nat.add_zero, ← Nat.mul_assoc, Nat.mul_comm]
      have factor := Nat.mul_pos positive (Nat.pow_pos (n := zeros) (show 0 < 10 by decide))
      rw [shifted, ← Nat.toDigits_append_toDigits (by decide) factor (by decide), ih,
        List.append_assoc, List.replicate_succ']
      rfl

theorem fixed_mul (places whole : Nat) {denominator : Nat} (positive : 0 < denominator) :
    fixed places (whole * denominator) denominator =
      Nat.toDigits 10 whole ++ '.' :: List.replicate places '0' := by
  have exact : roundHalfEven (whole * denominator * Nat.pow 10 places) denominator =
      whole * 10 ^ places := by
    rw [Nat.mul_right_comm]
    exact roundHalfEven_mul _ positive
  have padded : List.replicate (places + 1 - (Nat.toDigits 10 (whole * 10 ^ places)).length) '0' ++
      Nat.toDigits 10 (whole * 10 ^ places) =
        Nat.toDigits 10 whole ++ List.replicate places '0' := by
    by_cases zero : whole = 0
    · rw [zero, Nat.zero_mul, Nat.toDigits_zero]
      exact (List.replicate_succ').symm.trans List.replicate_succ
    · have someDigit := Nat.length_toDigits_pos (b := 10) (n := whole)
      have enough : places + 1 - (Nat.toDigits 10 (whole * 10 ^ places)).length = 0 := by
        rw [toDigits_mul_pow_ten (Nat.pos_of_ne_zero zero), List.length_append,
          List.length_replicate]
        omega
      rw [enough, toDigits_mul_pow_ten (Nat.pos_of_ne_zero zero)]
      rfl
  have point : (Nat.toDigits 10 whole ++ List.replicate places '0').length - places =
      (Nat.toDigits 10 whole).length := by
    rw [List.length_append, List.length_replicate, Nat.add_sub_cancel]
  unfold fixed
  dsimp only
  rw [exact, padded, point, List.take_left, List.drop_left]

end Spreadsheet.Decimal

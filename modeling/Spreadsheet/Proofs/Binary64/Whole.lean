import Spreadsheet.Proofs.Binary64
import Spreadsheet.Proofs.Binary64.Nearest

/-!
Whole numbers as floating-point numbers. A number without surplus digits has one significand of 53
digits, whatever zeros stand behind it, and larger numbers have later places among all magnitudes.
-/

set_option autoImplicit false

namespace Spreadsheet.Binary64

open Float.Model (Format UnpackedFloat)
open Float.Model.UnpackedFloat

namespace Parts

def ofWhole (negative : Bool) (whole : Nat) : Parts :=
  { negative
    significand := whole * 2 ^ 52 / 2 ^ whole.log2
    exponent := if whole = 0 then -1074 else whole.log2 - 52 }

def ofInt (n : Int) : Parts :=
  ofWhole (decide (n < 0)) n.natAbs

variable (negative : Bool) {whole : Nat}

theorem significand_zero : (ofWhole negative 0).significand = 0 :=
  rfl

theorem exponent_ofWhole (nonzero : whole ≠ 0) :
    (ofWhole negative whole).exponent = whole.log2 - 52 :=
  if_neg nonzero

theorem significand_mul (short : IsShort whole) :
    (ofWhole negative whole).significand * 2 ^ whole.log2 = whole * 2 ^ 52 := by
  apply Nat.div_mul_cancel
  have shifted : 2 ^ surplusDigits whole * 2 ^ 52 ∣ whole * 2 ^ 52 := Nat.mul_dvd_mul_right short _
  rw [← Nat.pow_add] at shifted
  refine Nat.dvd_trans (Nat.pow_dvd_pow 2 ?_) shifted
  unfold surplusDigits
  omega

theorem significand_of_long (long : 52 ≤ whole.log2) :
    (ofWhole negative whole).significand = whole / 2 ^ surplusDigits whole := by
  have unit : 2 ^ whole.log2 = 2 ^ surplusDigits whole * 2 ^ 52 := by
    rw [← Nat.pow_add, surplusDigits, Nat.sub_add_cancel long]
  change whole * 2 ^ 52 / 2 ^ whole.log2 = _
  rw [unit, Nat.mul_div_mul_right _ _ (Nat.two_pow_pos 52)]

theorem significand_mul_two_pow (nonzero : whole ≠ 0) (zeros : Nat) :
    (ofWhole negative (whole * 2 ^ zeros)).significand = (ofWhole negative whole).significand := by
  change whole * 2 ^ zeros * 2 ^ 52 / 2 ^ (whole * 2 ^ zeros).log2 = _
  rw [log2_mul_two_pow nonzero, Nat.pow_add, Nat.mul_right_comm,
    Nat.mul_div_mul_right _ _ (Nat.two_pow_pos zeros)]
  rfl

theorem significand_bounds (nonzero : whole ≠ 0) :
    2 ^ 52 ≤ (ofWhole negative whole).significand ∧
      (ofWhole negative whole).significand < 2 ^ 53 := by
  have unit := Nat.two_pow_pos whole.log2
  have low := Nat.log2_self_le nonzero
  have high : whole < 2 ^ (whole.log2 + 1) := Nat.lt_log2_self
  change 2 ^ 52 ≤ whole * 2 ^ 52 / 2 ^ whole.log2 ∧ whole * 2 ^ 52 / 2 ^ whole.log2 < 2 ^ 53
  constructor
  · rw [Nat.le_div_iff_mul_le unit, Nat.mul_comm]
    exact Nat.mul_le_mul_right _ low
  · rw [Nat.div_lt_iff_lt_mul unit]
    omega

theorem ofWhole_canonical (whole : Nat) : (ofWhole negative whole).Canonical := by
  by_cases zero : whole = 0
  · rw [zero]
    exact ⟨Nat.two_pow_pos 53, Int.le_refl _, fun _ => rfl⟩
  · obtain ⟨low, high⟩ := significand_bounds negative zero
    refine ⟨high, ?_, fun below => absurd below (Nat.not_lt.2 low)⟩
    rw [exponent_ofWhole negative zero]
    omega

theorem ofWhole_finite (bounded : whole.log2 < 1024) : (ofWhole negative whole).IsFinite := by
  rw [IsFinite, ofWhole]
  dsimp only
  split <;> omega

theorem rank_ofWhole_lt {smaller larger : Nat} (smallerShort : IsShort smaller)
    (largerShort : IsShort larger) (h : smaller < larger) :
    (ofWhole negative smaller).rank < (ofWhole negative larger).rank := by
  have nonzero : larger ≠ 0 := by omega
  obtain ⟨low, -⟩ := significand_bounds negative nonzero
  have largerProduct := significand_mul negative largerShort
  have largerExponent := exponent_ofWhole negative nonzero
  unfold rank
  by_cases zero : smaller = 0
  · rw [zero, significand_zero]
    change (-1074 + 1074) * 2 ^ 52 + 0 < _
    omega
  · obtain ⟨-, high⟩ := significand_bounds negative zero
    have smallerProduct := significand_mul negative smallerShort
    have smallerExponent := exponent_ofWhole negative zero
    have digits := log2_le_log2 (Nat.le_of_lt h)
    by_cases same : smaller.log2 = larger.log2
    · rw [same] at smallerProduct smallerExponent
      have less : (ofWhole negative smaller).significand <
          (ofWhole negative larger).significand := by
        apply Nat.lt_of_mul_lt_mul_right (a := 2 ^ larger.log2)
        omega
      omega
    · omega

theorem unpacked_neg (nonzero : whole ≠ 0) :
    (ofWhole false whole).unpacked.neg = (ofWhole true whole).unpacked := by
  have someDigit : (ofWhole false whole).significand ≠ 0 :=
    Nat.ne_of_gt (Nat.lt_of_lt_of_le (Nat.two_pow_pos 52) (significand_bounds false nonzero).1)
  have negated := @unpacked_of_nonzero (ofWhole true whole) someDigit
  rw [unpacked_of_nonzero someDigit, negated]
  rfl

theorem key_ofInt_lt {smaller larger : Int} (smallerShort : IsShort smaller.natAbs)
    (largerShort : IsShort larger.natAbs) (h : smaller < larger) :
    (ofInt smaller).key < (ofInt larger).key := by
  have smallerRank := rank_nonneg (ofWhole_canonical (decide (smaller < 0)) smaller.natAbs)
  have largerRank := rank_nonneg (ofWhole_canonical (decide (larger < 0)) larger.natAbs)
  unfold ofInt key
  by_cases negative : smaller < 0
  · by_cases bothNegative : larger < 0
    · have magnitudes := rank_ofWhole_lt true largerShort smallerShort (by omega)
      simp only [negative, bothNegative, decide_true]
      change -_ - 1 < -_ - 1
      omega
    · simp only [negative, bothNegative, decide_true, decide_false] at smallerRank largerRank ⊢
      change -_ - 1 < (ofWhole false larger.natAbs).rank
      omega
  · have bothPositive : ¬ larger < 0 := by omega
    simp only [negative, bothPositive, decide_false]
    exact rank_ofWhole_lt false smallerShort largerShort (by omega)

end Parts

end Spreadsheet.Binary64

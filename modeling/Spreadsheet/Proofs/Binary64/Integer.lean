import Spreadsheet.Proofs.Binary64.OfInt

/-!
Integers taken out of floating-point numbers. A converted integer has no fraction, so every way of
rounding leaves it alone, and what is read from it is the nearest integer without surplus digits.
-/

set_option autoImplicit false

namespace Spreadsheet.Binary64

namespace Parts

variable (negative : Bool) {whole : Nat}

theorem numerator_ofWhole (short : IsShort whole) :
    (ofWhole negative whole).numerator = whole * (ofWhole negative whole).denominator := by
  by_cases zero : whole = 0
  · rw [zero, numerator, significand_zero, Nat.zero_mul, Nat.zero_mul]
  · have product := significand_mul negative short
    have exponent := exponent_ofWhole negative zero
    apply Nat.mul_right_cancel (Nat.two_pow_pos 52)
    change (ofWhole negative whole).significand * 2 ^ (ofWhole negative whole).exponent.toNat *
      2 ^ 52 = whole * 2 ^ (-(ofWhole negative whole).exponent).toNat * 2 ^ 52
    have balanced : (ofWhole negative whole).exponent.toNat + 52 =
        whole.log2 + (-(ofWhole negative whole).exponent).toNat := by omega
    rw [Nat.mul_assoc, ← Nat.pow_add, balanced, Nat.pow_add, ← Nat.mul_assoc, product,
      Nat.mul_right_comm]

variable (n : Int)

theorem negative_nearest : (ofInt (nearest n)).negative = decide (n < 0) :=
  decide_eq_decide.2 nearest_neg_iff

theorem numerator_nearest :
    (ofInt (nearest n)).numerator = nearestNat n.natAbs * (ofInt (nearest n)).denominator := by
  rw [← natAbs_nearest]
  exact numerator_ofWhole _ (isShort_nearest n)

theorem whole_nearest : (ofInt (nearest n)).whole = nearestNat n.natAbs := by
  rw [whole, numerator_nearest]
  exact Nat.mul_div_cancel _ (denominator_pos _)

theorem isWhole_nearest : (ofInt (nearest n)).isWhole = true := by
  rw [isWhole, numerator_nearest, Nat.mul_mod_left]
  rfl

end Parts

theorem ofNat_nearestNat (n : Nat) : Float.ofNat (nearestNat n) = Float.ofNat n := by
  rw [ofNat_eq_toFloat, ofNat_eq_toFloat, nearestNat_of_isShort (isShort_nearestNat n)]

variable {n : Int}

theorem round_ofInt (mode : Rounding) (bounded : n.natAbs.log2 < 1023) :
    round mode (Float.ofInt n) = Float.ofInt n := by
  have finite := isFinite_of_parts (ordinary_ofInt bounded).finite
  rw [round, if_pos finite, parts_ofInt bounded]
  dsimp only
  rw [Parts.rounded_of_isWhole _ _ (Parts.isWhole_nearest n), Parts.negative_nearest,
    Parts.whole_nearest, ofNat_nearestNat]
  cases n with
  | ofNat m => rfl
  | negSucc m =>
      rw [if_pos (decide_eq_true (Int.negSucc_lt_zero m))]
      rfl

theorem toInt_ofInt (bounded : n.natAbs.log2 < 1023) : toInt (Float.ofInt n) = nearest n := by
  have finite := isNaN_of_parts (ordinary_ofInt bounded).finite
  rw [toInt, finite, if_neg Bool.false_ne_true, parts_ofInt bounded]
  dsimp only
  rw [Parts.whole_nearest, Parts.negative_nearest]
  simp only [decide_eq_true_eq]
  rfl

theorem abs_ofInt (bounded : n.natAbs.log2 < 1023) :
    (Float.ofInt n).abs = Float.ofInt n.natAbs := by
  have canonical : (Parts.ofInt (nearest n)).Canonical := Parts.ofWhole_canonical _ _
  have finite : (Parts.ofInt (nearest n)).IsFinite :=
    parts_ofInt bounded ▸ (ordinary_ofInt bounded).finite
  have magnitude : (Parts.ofInt (nearest n)).unpacked.abs =
      (Parts.ofWhole false (nearestNat n.natAbs)).unpacked := by
    rw [← natAbs_nearest]
    by_cases zero : (Parts.ofInt (nearest n)).significand = 0
    · rw [Parts.unpacked_of_zero zero,
        Parts.unpacked_of_zero (p := Parts.ofWhole false (nearest n).natAbs) zero]
      rfl
    · rw [Parts.unpacked_of_nonzero zero,
        Parts.unpacked_of_nonzero (p := Parts.ofWhole false (nearest n).natAbs) zero]
      rfl
  rw [ofInt_eq_toFloat bounded]
  change Float.ofModel (Float.Model.pack (Parts.ofInt (nearest n)).toFloat.toModel.unpack.abs) =
    Float.ofNat n.natAbs
  rw [unpack_toFloat canonical finite, ofNat_eq_toFloat, magnitude]
  rfl

theorem natAbs_toInt_le (x : Float) : (toInt x).natAbs ≤ (parts x).whole := by
  unfold toInt
  split
  · exact Nat.zero_le _
  · dsimp only
    split
    · rw [Int.natAbs_neg]
      exact Nat.le_refl _
    · exact Nat.le_refl _

theorem natAbs_lt_of_shortWhole? {x : Float} (h : shortWhole? x = some n) :
    n.natAbs < 10 ^ 15 := by
  unfold shortWhole? at h
  split at h
  · rename_i short
    rw [Bool.and_eq_true, decide_eq_true_eq] at short
    cases h
    exact Nat.lt_of_le_of_lt (natAbs_toInt_le x) short.2
  · cases h

/-- A converted integer is a short whole number exactly if it has fewer than sixteen digits. -/
theorem shortWhole?_ofInt (bounded : n.natAbs.log2 < 1023) :
    shortWhole? (Float.ofInt n) = if n.natAbs < 10 ^ 15 then some n else none := by
  have isFinite := isFinite_of_parts (ordinary_ofInt bounded).finite
  unfold shortWhole?
  rw [isFinite, parts_ofInt bounded, Parts.isWhole_nearest, Parts.whole_nearest,
    toInt_ofInt bounded]
  by_cases short : n.natAbs < 10 ^ 15
  · have exact := nearestNat_of_isShort (isShort_of_lt (show n.natAbs < 2 ^ 53 by omega))
    rw [if_pos short, exact, nearest_eq_self (by omega), Bool.true_and, Bool.true_and]
    exact if_pos (decide_eq_true short)
  · have large := nearestNat_mono (Nat.not_lt.1 short)
    rw [nearestNat_of_isShort (by decide)] at large
    rw [if_neg short, Bool.true_and, Bool.true_and, if_neg]
    rw [decide_eq_true_eq]
    omega

end Spreadsheet.Binary64

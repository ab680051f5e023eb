import Spreadsheet.Proofs.Binary64.Rounding

/-!
Integers converted to floating-point numbers. A natural number below 2 ^ 53 is taken digit by digit
and multiplied by one, a larger one is taken as a decimal without exponent; either way it is rounded
once. A negative integer is the opposite of a natural number.

The main statements are that the conversion gives the nearest integer without surplus digits, and
that converted integers are compared as these are.
-/

set_option autoImplicit false

namespace Spreadsheet.Binary64

open Float.Model (Format UnpackedFloat)
open Float.Model.UnpackedFloat

theorem unpack_one :
    Float.exactlyRepresentablePowersOfTen[0].toModel.unpack =
      .finite .positive (2 ^ 52) (-52) (Nat.two_pow_pos 52) :=
  rfl

theorem normalize_eq {n : Nat} (nonzero : n ≠ 0) (small : n < 2 ^ 53) :
    UnpackedFloat.normalize Format.binary64 n 0 .positive = (Parts.ofWhole false n).unpacked := by
  have digits := (Nat.log2_lt nonzero).2 small
  have sign : compare (n : Int) 0 = .gt := Int.compare_eq_gt.2 (by omega)
  have places : (0 - Format.binary64.targetExponent (Float.Model.totalExponent n 0)).toNat =
      52 - n.log2 := by
    change (0 - max ((n.log2 : Int) + 1 + 0 - (53 : Nat)) (-1074)).toNat = _
    omega
  have rounded := roundWithAccuracy_whole (52 - n.log2) nonzero (by omega)
  rw [nearestNat_of_isShort (isShort_of_lt small)] at rounded
  rw [UnpackedFloat.normalize, sign]
  change UnpackedFloat.round Format.binary64 .positive n 0 = _
  rw [UnpackedFloat.round, decreaseExponent]
  dsimp only
  rw [places, Nat.shiftLeft_eq, Int.zero_sub]
  exact rounded

theorem mul_positive {m₁ m₂ : Nat} {e₁ e₂ : Int} (positive₁ : 0 < m₁) (positive₂ : 0 < m₂) :
    UnpackedFloat.mul Format.binary64 (.finite .positive m₁ e₁ positive₁)
      (.finite .positive m₂ e₂ positive₂) =
        roundWithAccuracy Format.binary64 .positive (m₁ * m₂) (e₁ + e₂) .exact :=
  rfl

theorem mul_one_eq {n : Nat} (short : IsShort n) :
    UnpackedFloat.mul Format.binary64 (Parts.ofWhole false n).unpacked
      (.finite .positive (2 ^ 52) (-52) (Nat.two_pow_pos 52)) =
        (Parts.ofWhole false n).unpacked := by
  have product := mul_ofWhole false short (isShort_of_lt (by decide)) Nat.one_ne_zero
  rw [Nat.mul_one, nearestNat_of_isShort short] at product
  exact product

theorem ofScientific_eq {n : Nat} (nonzero : n ≠ 0) :
    UnpackedFloat.ofScientific Format.binary64 n 0 =
      (Parts.ofWhole false (nearestNat n)).unpacked := by
  have rounded := roundWithAccuracy_whole 53 nonzero (by omega)
  have notSmall : ¬ (0 : Int) < -(2 ^ Format.binary64.exponentBits + (n.log2 : Int)) := by
    change ¬ (0 : Int) < -(2048 + n.log2)
    omega
  have mantissa : n <<< Format.binary64.mantissaBits * 10 ^ (0 : Int).toNat = n * 2 ^ 53 := by
    rw [Nat.shiftLeft_eq]
    exact Nat.mul_one _
  have exponent : -(Format.binary64.mantissaBits : Int) + 0 = -(53 : Nat) := rfl
  rw [UnpackedFloat.ofScientific, dif_neg nonzero, if_neg (by decide), if_neg notSmall,
    if_pos (Int.le_refl 0), mul_positive, mantissa, exponent]
  exact rounded

theorem toFloat_toUInt64 {n : Nat} (small : n < 2 ^ 53) :
    n.toUInt64.toFloat = (Parts.ofWhole false n).toFloat := by
  have word : n.toUInt64.toNat = n := Nat.mod_eq_of_lt (Nat.lt_trans small (by decide))
  change Float.ofModel (Float.Model.pack
    (UnpackedFloat.normalize Format.binary64 n.toUInt64.toNat 0 .positive)) = _
  rw [word]
  by_cases zero : n = 0
  · rw [zero]
    rfl
  · rw [normalize_eq zero small]
    rfl

theorem ofNat_eq_toFloat (n : Nat) :
    Float.ofNat n = (Parts.ofWhole false (nearestNat n)).toFloat := by
  change Float.ofScientific n false 0 = _
  unfold Float.ofScientific
  by_cases zero : n = 0
  · rw [zero]
    rfl
  · split
    · rename_i small
      have exact := nearestNat_of_isShort (isShort_of_lt small.1)
      have canonical := Parts.ofWhole_canonical false n
      have digits := (Nat.log2_lt zero).2 small.1
      have finite := Parts.ofWhole_finite false (show n.log2 < 1024 by omega)
      simp only [toFloat_toUInt64 small.1, exact]
      change Float.ofModel (Float.Model.pack (UnpackedFloat.mul Format.binary64
        (Parts.ofWhole false n).toFloat.toModel.unpack
        Float.exactlyRepresentablePowersOfTen[0].toModel.unpack)) = _
      rw [unpack_toFloat canonical finite, unpack_one, mul_one_eq (isShort_of_lt small.1)]
      rfl
    · change Float.ofModel (Float.Model.pack (UnpackedFloat.ofScientific Format.binary64 n 0)) = _
      rw [ofScientific_eq zero]
      rfl

theorem ofInt_eq_toFloat {n : Int} (bounded : n.natAbs.log2 < 1023) :
    Float.ofInt n = (Parts.ofInt (nearest n)).toFloat := by
  cases n with
  | ofNat m => exact ofNat_eq_toFloat m
  | negSucc m =>
      have canonical := Parts.ofWhole_canonical false (nearestNat (m + 1))
      have finite := Parts.ofWhole_finite false (log2_nearestNat_lt bounded)
      have same : Parts.ofInt (nearest (Int.negSucc m)) =
          Parts.ofWhole true (nearestNat (m + 1)) := by
        rw [Parts.ofInt, natAbs_nearest, decide_eq_true (nearest_neg_iff.2 (Int.negSucc_lt_zero m))]
        rfl
      change (Float.ofNat (m + 1)).neg = _
      rw [ofNat_eq_toFloat, same]
      change Float.ofModel (Float.Model.pack
        (Parts.ofWhole false (nearestNat (m + 1))).toFloat.toModel.unpack.neg) = _
      rw [unpack_toFloat canonical finite,
        Parts.unpacked_neg (nearestNat_ne_zero (Nat.succ_ne_zero m))]
      rfl

theorem parts_ofInt {n : Int} (bounded : n.natAbs.log2 < 1023) :
    parts (Float.ofInt n) = Parts.ofInt (nearest n) := by
  rw [ofInt_eq_toFloat bounded]
  exact Parts.parts_toFloat (Parts.ofWhole_canonical _ _)
    (Parts.ofWhole_finite _ (natAbs_nearest n ▸ log2_nearestNat_lt bounded))

theorem ordinary_ofInt {n : Int} (bounded : n.natAbs.log2 < 1023) : Ordinary (Float.ofInt n) := by
  constructor
  · rw [parts_ofInt bounded]
    exact Parts.ofWhole_finite _ (natAbs_nearest n ▸ log2_nearestNat_lt bounded)
  · rw [parts_ofInt bounded]
    rintro ⟨negative, zero⟩
    have below : nearest n < 0 := of_decide_eq_true negative
    have nonzero : (nearest n).natAbs ≠ 0 := by omega
    have := (Parts.significand_bounds (decide (nearest n < 0)) nonzero).1
    change (Parts.ofWhole (decide (nearest n < 0)) (nearest n).natAbs).significand = 0 at zero
    omega

variable {m n : Int}

theorem isShort_nearest (n : Int) : IsShort (nearest n).natAbs :=
  natAbs_nearest n ▸ isShort_nearestNat _

theorem orderKey_ofInt_lt_iff (first : m.natAbs.log2 < 1023) (second : n.natAbs.log2 < 1023) :
    orderKey (Float.ofInt m) < orderKey (Float.ofInt n) ↔ nearest m < nearest n := by
  rw [orderKey_eq, orderKey_eq, parts_ofInt first, parts_ofInt second]
  have shorts := And.intro (isShort_nearest m) (isShort_nearest n)
  constructor
  · intro less
    rcases Int.lt_trichotomy (nearest m) (nearest n) with lower | same | higher
    · exact lower
    · rw [same] at less
      exact absurd less (Int.lt_irrefl _)
    · exact absurd (Parts.key_ofInt_lt shorts.2 shorts.1 higher) (Int.not_lt.2 (Int.le_of_lt less))
  · exact Parts.key_ofInt_lt shorts.1 shorts.2

theorem ofInt_lt_iff (first : m.natAbs.log2 < 1023) (second : n.natAbs.log2 < 1023) :
    Float.ofInt m < Float.ofInt n ↔ nearest m < nearest n := by
  rw [lt_iff_orderKey_lt (ordinary_ofInt first) (ordinary_ofInt second),
    orderKey_ofInt_lt_iff first second]

theorem ofInt_beq_iff (first : m.natAbs.log2 < 1023) (second : n.natAbs.log2 < 1023) :
    (Float.ofInt m == Float.ofInt n) = true ↔ nearest m = nearest n := by
  have below := orderKey_ofInt_lt_iff first second
  have above := orderKey_ofInt_lt_iff second first
  rw [beq_iff_orderKey_eq (ordinary_ofInt first) (ordinary_ofInt second)]
  omega

theorem log2_toInt_lt (n : Int64) : n.toInt.natAbs.log2 < 1023 := by
  have low := n.le_toInt
  have high := n.toInt_lt
  by_cases zero : n.toInt.natAbs = 0
  · rw [zero]
    decide
  · have := (Nat.log2_lt zero).2 (show n.toInt.natAbs < 2 ^ 64 by omega)
    omega

end Spreadsheet.Binary64

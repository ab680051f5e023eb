import Spreadsheet.Proofs.Binary64.Quotient

/-!
Arithmetic with whole numbers and their quotients. A result is rounded once, and its sign is that
of the exact result; a sum with zero is never the negative zero.

The main statements are that the quotient of converted numbers is the number nearest to their
quotient, that a decimal with digits after the point is read as the nearest number, and that a
product of converted numbers is the converted product.
-/

set_option autoImplicit false

namespace Spreadsheet.Binary64

open Float.Model (Format UnpackedFloat)
open Float.Model.UnpackedFloat

namespace Parts

def opposite (p : Parts) : Parts :=
  { p with negative := !p.negative }

theorem unpacked_opposite (p : Parts) : p.opposite.unpacked = p.unpacked.neg := by
  have sign : p.opposite.sign = -p.sign := by
    unfold Parts.sign opposite
    cases p.negative <;> rfl
  by_cases zero : p.significand = 0
  · rw [unpacked_of_zero zero, unpacked_of_zero (p := p.opposite) zero, sign]
    rfl
  · rw [unpacked_of_nonzero zero, unpacked_of_nonzero (p := p.opposite) zero, sign]
    rfl

theorem neg_toFloat {p : Parts} (canonical : p.Canonical) (finite : p.IsFinite) :
    -p.toFloat = p.opposite.toFloat := by
  change Float.ofModel (Float.Model.pack p.toFloat.toModel.unpack.neg) = _
  rw [unpack_toFloat canonical finite, ← unpacked_opposite]
  rfl

end Parts

open Parts

variable (negative : Bool)

section Unpacked

/-- The quotient of two finite numbers is the number nearest to the quotient of their values. -/
theorem div_finite {m₁ m₂ : Nat} {e₁ e₂ : Int} (positive₁ : 0 < m₁) (positive₂ : 0 < m₂)
    {numerator denominator zeros more : Nat} (nonzero : numerator ≠ 0) (positive : 0 < denominator)
    (exponents : e₁ + more = e₂ + zeros)
    (same : m₁ * 2 ^ zeros * denominator = numerator * 2 ^ more * m₂)
    (normal : m₂.log2 + e₂ ≤ m₁.log2 + e₁ + 1021) :
    UnpackedFloat.div Format.binary64
        (.finite (if negative then .negative else .positive) m₁ e₁ positive₁)
        (.finite .positive m₂ e₂ positive₂) =
      (ofQuotient negative numerator denominator).unpacked := by
  have nonzero₁ : m₁ ≠ 0 := Nat.ne_of_gt positive₁
  have target : Format.binary64.targetExponent
      (Float.Model.totalExponent m₁ e₁ - Float.Model.totalExponent m₂ e₂) =
        m₁.log2 + e₁ - (m₂.log2 + e₂) - 53 := by
    change max ((m₁.log2 : Int) + 1 + e₁ - (m₂.log2 + 1 + e₂) - (53 : Nat)) (-1074) = _
    omega
  have sign : (if negative then Sign.negative else .positive) / .positive =
      if negative then .negative else .positive := by
    cases negative <;> rfl
  change roundWithAccuracy Format.binary64 (_ / Sign.positive)
    (divCore Format.binary64 m₁ e₁ m₂ e₂).1 (divCore Format.binary64 m₁ e₁ m₂ e₂).2.1
    (divCore Format.binary64 m₁ e₁ m₂ e₂).2.2 = _
  unfold divCore
  dsimp only
  rw [target, sign, Nat.shiftLeft_eq]
  generalize least : min (e₁ - e₂) (m₁.log2 + e₁ - (m₂.log2 + e₂) - 53) = exponent
  obtain ⟨shift, shifted⟩ : ∃ shift : Nat, (e₁ - e₂ - exponent).toNat = shift := ⟨_, rfl⟩
  have difference : exponent = zeros - (more + shift : Nat) := by omega
  have digits := log2_mul_two_pow nonzero₁ shift
  have shiftedNonzero : m₁ * 2 ^ shift ≠ 0 :=
    Nat.mul_ne_zero nonzero₁ (Nat.ne_of_gt (Nat.two_pow_pos _))
  have long : 52 ≤ (m₁ * 2 ^ shift / m₂).log2 := le_log2_div shiftedNonzero positive₂ (by omega)
  have normalQuotient : -1022 ≤ ((m₁ * 2 ^ shift / m₂).log2 : Int) + exponent := by
    have := @le_log2_div _ _ shiftedNonzero positive₂ (m₁.log2 + shift - m₂.log2 - 1) (by omega)
    omega
  rw [shifted, roundWithAccuracy_quotient negative long normalQuotient, difference,
    ofDyadic_eq_ofQuotient negative nonzero positive long]
  rw [Nat.mul_right_comm m₁, Nat.mul_right_comm, same, Nat.pow_add]
  ac_rfl

theorem div_ofWhole {a b : Nat} (first : IsShort a) (second : IsShort b) (nonzero : b ≠ 0)
    (fine : b.log2 < 1022) :
    UnpackedFloat.div Format.binary64 (ofWhole negative a).unpacked (ofWhole false b).unpacked =
      (ofQuotient negative a b).unpacked := by
  have digits {whole : Nat} (someDigit : whole ≠ 0) (negative : Bool) :
      0 < (ofWhole negative whole).significand ∧
        (ofWhole negative whole).significand.log2 = 52 := by
    obtain ⟨low, high⟩ := significand_bounds negative someDigit
    have positive : 0 < (ofWhole negative whole).significand := by omega
    exact ⟨positive, (Nat.log2_eq_iff (Nat.ne_of_gt positive)).2 ⟨low, high⟩⟩
  obtain ⟨positiveSecond, digitsSecond⟩ := digits nonzero false
  rw [unpacked_of_nonzero (p := ofWhole false b) (Nat.ne_of_gt positiveSecond)]
  by_cases zero : a = 0
  · rw [zero, ofQuotient_zero]
    cases negative <;> rfl
  · obtain ⟨positiveFirst, digitsFirst⟩ := digits zero negative
    have exponentFirst := exponent_ofWhole negative zero
    have exponentSecond := exponent_ofWhole false nonzero
    rw [unpacked_of_nonzero (p := ofWhole negative a) (Nat.ne_of_gt positiveFirst)]
    refine @div_finite negative _ _ _ _ positiveFirst positiveSecond a b a.log2 b.log2 zero
      (Nat.pos_of_ne_zero nonzero) (by omega) ?_ (by omega)
    have productSecond := significand_mul false second
    rw [significand_mul negative first, Nat.mul_right_comm, Nat.mul_assoc a b, ← productSecond,
      Nat.mul_assoc, Nat.mul_comm (2 ^ b.log2)]

end Unpacked

variable {a b : Nat}

theorem div_toFloat (first : IsShort a) (second : IsShort b) (nonzero : b ≠ 0)
    (bounded : a.log2 < 1024) (fine : b.log2 < 1022) :
    (ofWhole negative a).toFloat / (ofWhole false b).toFloat =
      (ofQuotient negative a b).toFloat := by
  change Float.ofModel (Float.Model.pack (UnpackedFloat.div Format.binary64
    (ofWhole negative a).toFloat.toModel.unpack (ofWhole false b).toFloat.toModel.unpack)) = _
  rw [unpack_toFloat (ofWhole_canonical negative a) (ofWhole_finite negative bounded),
    unpack_toFloat (ofWhole_canonical false b) (ofWhole_finite false (by omega)),
    div_ofWhole negative first second nonzero fine]
  rfl

theorem mul_toFloat (first : IsShort a) (second : IsShort b) (nonzero : b ≠ 0)
    (bounded : a.log2 < 1024) (otherBounded : b.log2 < 1024) :
    (ofWhole negative a).toFloat * (ofWhole false b).toFloat =
      (ofWhole negative (nearestNat (a * b))).toFloat := by
  change Float.ofModel (Float.Model.pack (UnpackedFloat.mul Format.binary64
    (ofWhole negative a).toFloat.toModel.unpack (ofWhole false b).toFloat.toModel.unpack)) = _
  rw [unpack_toFloat (ofWhole_canonical negative a) (ofWhole_finite negative bounded),
    unpack_toFloat (ofWhole_canonical false b) (ofWhole_finite false otherBounded),
    mul_ofWhole negative first second nonzero]
  rfl

theorem toFloat_add_zero {whole : Nat} (bounded : whole.log2 < 1023) :
    (ofWhole negative (nearestNat whole)).toFloat + 0.0 =
      Float.ofInt (if negative then -whole else whole) := by
  have canonical := ofWhole_canonical negative (nearestNat whole)
  have finite := ofWhole_finite negative (log2_nearestNat_lt bounded)
  have magnitude : (if negative then -(whole : Int) else whole).natAbs = whole := by
    split <;> omega
  rw [ofInt_eq_toFloat (magnitude.symm ▸ bounded), Parts.ofInt, natAbs_nearest, magnitude]
  simp only [nearest_neg_iff]
  change Float.ofModel (Float.Model.pack (UnpackedFloat.add Format.binary64
    (ofWhole negative (nearestNat whole)).toFloat.toModel.unpack (.zero .positive))) = _
  rw [unpack_toFloat canonical finite]
  by_cases zero : whole = 0
  · rw [zero]
    cases negative <;> rfl
  · have sign : decide ((if negative then -(whole : Int) else whole) < 0) = negative := by
      cases negative with
      | false =>
          rw [if_neg Bool.false_ne_true]
          exact decide_eq_false (by omega)
      | true =>
          rw [if_pos rfl]
          exact decide_eq_true (by omega)
    have low := (significand_bounds negative (nearestNat_ne_zero zero)).1
    have someDigit : (ofWhole negative (nearestNat whole)).significand ≠ 0 := by omega
    rw [sign, toFloat, unpacked_of_nonzero someDigit]
    rfl

section PowersOfTen

theorem isShort_pow_ten {exponent : Nat} (h : exponent ≤ 22) : IsShort (10 ^ exponent) := by
  have all : ∀ exponent : Fin 23, IsShort (10 ^ exponent.val) := by decide +kernel
  exact all ⟨exponent, by omega⟩

theorem log2_pow_ten_lt {exponent : Nat} (h : exponent ≤ 300) : (10 ^ exponent).log2 < 1022 :=
  Nat.lt_of_le_of_lt (log2_le_log2 (Nat.pow_le_pow_right (by decide) h)) (by decide +kernel)

theorem log2_lt_of_le_pow_ten {whole exponent : Nat} (h : whole ≤ 10 ^ exponent)
    (few : exponent ≤ 300) : whole.log2 < 1023 :=
  Nat.lt_succ_of_lt (Nat.lt_of_le_of_lt (log2_le_log2 h) (log2_pow_ten_lt few))

theorem exactlyRepresentablePowersOfTen_eq {exponent : Nat}
    (h : exponent < Float.exactlyRepresentablePowersOfTen.size) :
    Float.exactlyRepresentablePowersOfTen[exponent] = (ofWhole false (10 ^ exponent)).toFloat := by
  have all : ∀ exponent : Fin 23, Float.exactlyRepresentablePowersOfTen[exponent] =
      (ofWhole false (10 ^ exponent.val)).toFloat := by
    decide +kernel
  exact all ⟨exponent, h⟩

/-- A decimal with digits after the point is read as the number nearest to it. -/
theorem ofScientific_eq_ofQuotient {digits places : Nat} (nonzero : digits ≠ 0)
    (positive : 0 < places) (h : places ≤ 300) :
    Float.ofScientific digits true places = (ofQuotient false digits (10 ^ places)).toFloat := by
  have unit : 10 ^ places ≠ 0 := Nat.ne_of_gt (Nat.pow_pos (by decide))
  have fine := log2_pow_ten_lt h
  unfold Float.ofScientific
  split
  · rename_i small
    have digitsBounded := (Nat.log2_lt nonzero).2 small.1
    simp only [toFloat_toUInt64 small.1, exactlyRepresentablePowersOfTen_eq, if_true]
    exact div_toFloat false (isShort_of_lt small.1) (isShort_pow_ten small.2) unit (by omega) fine
  · change Float.ofModel (Float.Model.pack
      (UnpackedFloat.ofScientific Format.binary64 digits (Int.negOfNat places))) = _
    have exponent : Int.negOfNat places = -places := Int.negOfNat_eq
    have small : ¬ 2 ^ Format.binary64.exponentBits < -(places : Int) := by
      change ¬ 2048 < -(places : Int)
      omega
    have large : ¬ -(places : Int) < -(2 ^ Format.binary64.exponentBits + digits.log2 : Int) := by
      change ¬ -(places : Int) < -(2048 + digits.log2)
      omega
    have down : (-(-(places : Int))).toNat = places := by omega
    have quotient := @div_finite false digits (10 ^ (-(-(places : Int))).toNat) 0 0
      (Nat.pos_of_ne_zero nonzero) (Nat.pow_pos (by decide)) digits (10 ^ places) 0 0 nonzero
      (Nat.pos_of_ne_zero unit) rfl (by rw [down]) (by rw [down]; omega)
    rw [exponent, UnpackedFloat.ofScientific, dif_neg nonzero, if_neg small, if_neg large,
      if_neg (by omega)]
    exact congrArg (Float.ofModel ∘ Float.Model.pack) quotient

end PowersOfTen

end Spreadsheet.Binary64

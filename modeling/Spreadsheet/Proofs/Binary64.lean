import Mathlib.Algebra.Group.Nat.Defs
import Mathlib.Algebra.Ring.Int.Defs
import Spreadsheet.Binary64

/-!
Floating-point numbers by their parts. The parts of a number say what it is made of, and a finite
number is made of any canonical parts; arithmetic opens a number into the same parts and closes the
result again.

Bit patterns and numbers are in the same order, sign by sign. The main statement is that finite
numbers, of which none is the negative zero, are compared as their keys in the order of all numbers
are.
-/

set_option autoImplicit false

namespace Spreadsheet.Binary64

open Float.Model (Format UnpackedFloat)
open Float.Model.UnpackedFloat

section Fields

theorem toNat_unpackMantissa (bits : BitVec Format.binary64.numBits) :
    (unpackMantissa bits).toNat = bits.toNat % 2 ^ 52 := by
  simp [unpackMantissa]

theorem toNat_unpackExponent (bits : BitVec Format.binary64.numBits) :
    (unpackExponent bits).toNat = bits.toNat / 2 ^ 52 % 2 ^ 11 := by
  simp [unpackExponent, Nat.shiftRight_eq_div_pow]

theorem toNat_unpackSign (bits : BitVec Format.binary64.numBits) :
    (unpackSign bits).toNat = bits.toNat / 2 ^ 63 % 2 := by
  change (bits.extractLsb 63 63).toNat = _
  simp [Nat.shiftRight_eq_div_pow]

theorem toNat_packComponents (sign : Sign) (exponent : BitVec 11) (mantissa : BitVec 52) :
    (packComponents Format.binary64 sign exponent mantissa).toNat =
      sign.toBitVec.toNat * 2 ^ 63 + exponent.toNat * 2 ^ 52 + mantissa.toNat := by
  rw [packComponents, BitVec.toNat_append, BitVec.toNat_append,
    ← Nat.shiftLeft_add_eq_or_of_lt mantissa.isLt, ← Nat.shiftLeft_add_eq_or_of_lt exponent.isLt,
    Nat.shiftLeft_eq, Nat.shiftLeft_eq, Nat.add_mul, Nat.mul_assoc, ← Nat.pow_add]

theorem finite_congr {sign : Sign} {m n : Nat} {e f : Int} {positive : 0 < m} {other : 0 < n}
    (significand : m = n) (exponent : e = f) :
    UnpackedFloat.finite sign m e positive = .finite sign n f other := by
  subst significand exponent
  rfl

theorem pack_finite (sign : Sign) {m : Nat} {e : Int} (positive : 0 < m) (low : -1074 ≤ e)
    (high : e ≤ 971) :
    UnpackedFloat.pack Format.binary64 (.finite sign m e positive) =
      packComponents Format.binary64 sign
        (if m.log2 + 1 = 53 then BitVec.ofNat 11 (e + 1075).toNat else 0#11)
        (BitVec.ofNat 52 m) := by
  have biased : (e + (1023 : Nat) + (52 : Nat)).toNat = (e + 1075).toNat := by omega
  have fits : ¬ 2 ^ 11 ≤ (e + 1075).toNat + 1 := by omega
  change (if 2 ^ 11 ≤ (e + (1023 : Nat) + (52 : Nat)).toNat + 1 then _ else
    if m.log2 + 1 = 53 then packComponents Format.binary64 sign
      (BitVec.ofNat 11 (e + (1023 : Nat) + (52 : Nat)).toNat) (BitVec.ofNat 52 m)
    else packComponents Format.binary64 sign 0#11 (BitVec.ofNat 52 m)) = _
  rw [biased, if_neg fits]
  split <;> rfl

theorem toNat_one_append (mantissa : BitVec 52) :
    (1#1 ++ mantissa).toNat = 2 ^ 52 + mantissa.toNat := by
  rw [BitVec.toNat_append, ← Nat.shiftLeft_add_eq_or_of_lt mantissa.isLt]
  rfl

theorem parts_negative (x : Float) : (parts x).negative = decide (2 ^ 63 ≤ x.toBits.toNat) := by
  have small := x.toBits.toNat_lt
  change (x.toBits.toNat / 2 ^ 63 == 1) = _
  rw [Bool.eq_iff_iff, beq_iff_eq, decide_eq_true_eq]
  omega

theorem parts_significand (x : Float) :
    (parts x).significand =
      if x.toBits.toNat / 2 ^ 52 % 2 ^ 11 = 0 then x.toBits.toNat % 2 ^ 52
      else x.toBits.toNat % 2 ^ 52 + 2 ^ 52 :=
  rfl

theorem parts_exponent (x : Float) :
    (parts x).exponent = (max (x.toBits.toNat / 2 ^ 52 % 2 ^ 11) 1 : Nat) - 1075 :=
  rfl

end Fields

namespace Parts

/-- The parts that a number can have: only among the smallest numbers is the significand shorter
than 53 binary digits. -/
structure Canonical (p : Parts) : Prop where
  significand_lt : p.significand < 2 ^ 53
  exponent_ge : -1074 ≤ p.exponent
  exponent_eq : p.significand < 2 ^ 52 → p.exponent = -1074

/-- Beyond this exponent there are only the infinities and NaN. -/
def IsFinite (p : Parts) : Prop :=
  p.exponent ≤ 971

def IsNegativeZero (p : Parts) : Prop :=
  p.negative = true ∧ p.significand = 0

def sign (p : Parts) : Sign :=
  if p.negative then .negative else .positive

def unpacked (p : Parts) : UnpackedFloat :=
  if zero : p.significand = 0 then .zero p.sign
  else .finite p.sign p.significand p.exponent (Nat.pos_of_ne_zero zero)

def toFloat (p : Parts) : Float :=
  .ofModel (Float.Model.pack p.unpacked)

def rank (p : Parts) : Int :=
  (p.exponent + 1074) * 2 ^ 52 + p.significand

def key (p : Parts) : Int :=
  if p.negative then -p.rank - 1 else p.rank

variable {p q : Parts}

theorem unpacked_of_zero (zero : p.significand = 0) : p.unpacked = .zero p.sign :=
  dif_pos zero

theorem unpacked_of_nonzero (nonzero : p.significand ≠ 0) :
    p.unpacked = .finite p.sign p.significand p.exponent (Nat.pos_of_ne_zero nonzero) :=
  dif_neg nonzero

theorem unpacked_zero_or_finite (p : Parts) :
    p.unpacked = .zero p.sign ∨
      ∃ positive, p.unpacked = .finite p.sign p.significand p.exponent positive := by
  by_cases zero : p.significand = 0
  · exact Or.inl (unpacked_of_zero zero)
  · exact Or.inr ⟨Nat.pos_of_ne_zero zero, unpacked_of_nonzero zero⟩

theorem rank_nonneg (canonical : p.Canonical) : 0 ≤ p.rank := by
  have := canonical.exponent_ge
  unfold rank
  omega

theorem rank_pos (canonical : p.Canonical) (nonzero : p.significand ≠ 0) : 0 < p.rank := by
  have := canonical.exponent_ge
  unfold rank
  omega

theorem rank_eq_zero (canonical : p.Canonical) (zero : p.significand = 0) : p.rank = 0 := by
  have := canonical.exponent_eq (by omega)
  unfold rank
  omega

theorem compare_rank (first : p.Canonical) (second : q.Canonical) :
    compare p.rank q.rank =
      (compare p.exponent q.exponent).then (compare p.significand q.significand) := by
  have := first.significand_lt
  have := second.significand_lt
  have := first.exponent_ge
  have := second.exponent_ge
  have := first.exponent_eq
  have := second.exponent_eq
  unfold rank
  rcases Int.lt_trichotomy p.exponent q.exponent with lower | same | higher
  · rw [Int.compare_eq_lt.2 lower, Int.compare_eq_lt.2 (by omega)]
    rfl
  · rw [Int.compare_eq_eq.2 same, same]
    rcases Nat.lt_trichotomy p.significand q.significand with less | equal | more
    · rw [Nat.compare_eq_lt.2 less, Int.compare_eq_lt.2 (by omega)]
      rfl
    · rw [Nat.compare_eq_eq.2 equal, Int.compare_eq_eq.2 (by omega)]
      rfl
    · rw [Nat.compare_eq_gt.2 more, Int.compare_eq_gt.2 (by omega)]
      rfl
  · rw [Int.compare_eq_gt.2 higher, Int.compare_eq_gt.2 (by omega)]
    rfl

theorem unpacked_cases (canonical : p.Canonical) (notNegativeZero : ¬ p.IsNegativeZero) :
    (p.unpacked = .zero .positive ∧ p.key = 0) ∨
      (∃ positive, p.unpacked = .finite .positive p.significand p.exponent positive ∧
        0 < p.key ∧ p.key = p.rank) ∨
      ∃ positive, p.unpacked = .finite .negative p.significand p.exponent positive ∧
        p.key < 0 ∧ p.key = -p.rank - 1 := by
  unfold IsNegativeZero at notNegativeZero
  by_cases zero : p.significand = 0
  · have positive : p.negative = false := by simpa [zero] using notNegativeZero
    refine Or.inl ⟨?_, ?_⟩
    · rw [unpacked_of_zero zero, sign, positive, if_neg Bool.false_ne_true]
    · rw [key, positive, if_neg Bool.false_ne_true, rank_eq_zero canonical zero]
  · have rank := rank_pos canonical zero
    rw [unpacked_of_nonzero zero, sign, key]
    cases p.negative with
    | false => exact Or.inr (Or.inl ⟨Nat.pos_of_ne_zero zero, rfl, rank, rfl⟩)
    | true =>
        refine Or.inr (Or.inr ⟨Nat.pos_of_ne_zero zero, rfl, ?_, rfl⟩)
        rw [if_pos rfl]
        omega

theorem compare_unpacked (first : p.Canonical) (second : q.Canonical)
    (firstNotNegativeZero : ¬ p.IsNegativeZero) (secondNotNegativeZero : ¬ q.IsNegativeZero) :
    p.unpacked.compare q.unpacked = some (compare p.key q.key) := by
  have magnitudes := compare_rank first second
  obtain ⟨shown, sign⟩ | ⟨_, shown, sign, key⟩ | ⟨_, shown, sign, key⟩ :=
      unpacked_cases first firstNotNegativeZero <;>
    obtain ⟨otherShown, otherSign⟩ | ⟨_, otherShown, otherSign, otherKey⟩ |
        ⟨_, otherShown, otherSign, otherKey⟩ := unpacked_cases second secondNotNegativeZero <;>
    rw [shown, otherShown]
  · rw [sign, otherSign]
    rfl
  · rw [Int.compare_eq_lt.2 (by omega)]
    rfl
  · rw [Int.compare_eq_gt.2 (by omega)]
    rfl
  · rw [Int.compare_eq_gt.2 (by omega)]
    rfl
  · rw [key, otherKey, magnitudes]
    rfl
  · rw [Int.compare_eq_gt.2 (by omega)]
    rfl
  · rw [Int.compare_eq_lt.2 (by omega)]
    rfl
  · rw [Int.compare_eq_lt.2 (by omega)]
    rfl
  · have reversed : compare p.key q.key = (compare p.rank q.rank).swap := by
      rw [Int.compare_swap, key, otherKey]
      rcases Int.lt_trichotomy p.rank q.rank with lower | same | higher
      · rw [Int.compare_eq_gt.2 (by omega), Int.compare_eq_gt.2 lower]
      · rw [Int.compare_eq_eq.2 (by omega), Int.compare_eq_eq.2 same.symm]
      · rw [Int.compare_eq_lt.2 (by omega), Int.compare_eq_lt.2 higher]
    rw [reversed, magnitudes]
    rfl

theorem toNat_sign (p : Parts) :
    p.sign.toBitVec.toNat * 2 ^ 63 = if p.negative then 2 ^ 63 else 0 := by
  rw [sign]
  cases p.negative <;> rfl

/-- The bits of a number are its sign and the place of its magnitude. -/
theorem toBits_toFloat (canonical : p.Canonical) (finite : p.IsFinite) :
    (p.toFloat.toBits.toNat : Int) = (if p.negative then 2 ^ 63 else 0 : Nat) + p.rank := by
  have := canonical.significand_lt
  have := canonical.exponent_ge
  have := canonical.exponent_eq
  change ((UnpackedFloat.pack Format.binary64 p.unpacked).toNat : Int) = _
  rw [← toNat_sign, rank]
  by_cases zero : p.significand = 0
  · have packed := toNat_packComponents p.sign 0#11 0#52
    rw [unpacked_of_zero zero]
    change ((packComponents Format.binary64 p.sign 0#11 0#52).toNat : Int) = _
    rw [packed, BitVec.toNat_zero, BitVec.toNat_zero]
    omega
  · rw [unpacked_of_nonzero zero, pack_finite p.sign _ (by omega) finite, toNat_packComponents,
      BitVec.toNat_ofNat]
    split
    · rename_i digits
      have normal : 2 ^ 52 ≤ p.significand :=
        (Nat.le_log2 zero).1 (Nat.le_of_eq (Nat.succ.inj digits).symm)
      unfold IsFinite at finite
      rw [BitVec.toNat_ofNat, Nat.mod_eq_of_lt (show (p.exponent + 1075).toNat < 2 ^ 11 by omega)]
      omega
    · rename_i digits
      have short : p.significand < 2 ^ 52 := by
        refine Nat.lt_of_not_le fun normal => digits ?_
        exact congrArg Nat.succ ((Nat.log2_eq_iff zero).2 ⟨normal, canonical.significand_lt⟩)
      rw [BitVec.toNat_zero, Nat.mod_eq_of_lt short]
      omega

theorem parts_toFloat (canonical : p.Canonical) (finite : p.IsFinite) : parts p.toFloat = p := by
  have bits := toBits_toFloat canonical finite
  have := canonical.significand_lt
  have := canonical.exponent_ge
  have := canonical.exponent_eq
  rw [rank] at bits
  unfold IsFinite at finite
  generalize p.toFloat = x at bits
  have below : (x.toBits.toNat % 2 ^ 63 : Nat) = (p.exponent + 1074) * 2 ^ 52 + p.significand := by
    split at bits <;> omega
  have negative : (parts x).negative = p.negative := by
    rw [parts_negative, Bool.eq_iff_iff, decide_eq_true_eq]
    split at bits <;> simp_all <;> omega
  have significand : (parts x).significand = p.significand := by
    rw [parts_significand]
    split <;> omega
  have exponent : (parts x).exponent = p.exponent := by
    rw [parts_exponent]
    omega
  cases p
  cases negative
  cases significand
  cases exponent
  rfl

end Parts

variable {x y : Float}

theorem parts_canonical (x : Float) : (parts x).Canonical := by
  constructor
  · rw [parts_significand]
    split <;> omega
  · rw [parts_exponent]
    omega
  · rw [parts_significand, parts_exponent]
    split <;> omega

theorem orderKey_eq (x : Float) : orderKey x = (parts x).key := by
  have small := x.toBits.toNat_lt
  have magnitude : (parts x).rank = (x.toBits.toNat % 2 ^ 63 : Nat) := by
    rw [Parts.rank, parts_significand, parts_exponent]
    split <;> omega
  rw [Parts.key, magnitude, parts_negative, orderKey]
  simp only [decide_eq_true_eq]
  split <;> split <;> omega

theorem sign_parts (x : Float) :
    Sign.ofBitVec (@unpackSign Format.binary64 x.toBits.toBitVec) = (parts x).sign := by
  have small := x.toBits.toNat_lt
  have bit := toNat_unpackSign x.toBits.toBitVec
  change _ = x.toBits.toNat / 2 ^ 63 % 2 at bit
  simp only [Sign.ofBitVec, Parts.sign, parts_negative, ← BitVec.toNat_inj, bit, decide_eq_true_eq]
  change (if x.toBits.toNat / 2 ^ 63 % 2 = 0 then Sign.positive else Sign.negative) = _
  by_cases negative : 2 ^ 63 ≤ x.toBits.toNat
  · rw [if_neg (by omega), if_pos negative]
  · rw [if_pos (by omega), if_neg negative]

theorem unpack_eq (finite : (parts x).IsFinite) : x.toModel.unpack = (parts x).unpacked := by
  have mantissa := toNat_unpackMantissa x.toBits.toBitVec
  have exponent := toNat_unpackExponent x.toBits.toBitVec
  change _ = x.toBits.toNat % 2 ^ 52 at mantissa
  change _ = x.toBits.toNat / 2 ^ 52 % 2 ^ 11 at exponent
  rw [Parts.IsFinite, parts_exponent] at finite
  have notLast : ¬ @unpackExponent Format.binary64 x.toBits.toBitVec = -1#11 := by
    rw [← BitVec.toNat_inj, exponent]
    change ¬ _ = 2047
    omega
  change UnpackedFloat.unpack Format.binary64 x.toBits.toBitVec = _
  unfold UnpackedFloat.unpack
  dsimp only
  rw [if_neg notLast, sign_parts]
  by_cases subnormal : @unpackExponent Format.binary64 x.toBits.toBitVec = 0#11
  · have biased : x.toBits.toNat / 2 ^ 52 % 2 ^ 11 = 0 :=
      exponent ▸ congrArg BitVec.toNat subnormal
    have significand := parts_significand x
    rw [if_pos biased] at significand
    rw [if_pos subnormal]
    by_cases empty : @unpackMantissa Format.binary64 x.toBits.toBitVec = 0#52
    · have zero : (parts x).significand = 0 := by
        rw [significand, ← mantissa, empty]
        rfl
      rw [dif_pos empty, Parts.unpacked_of_zero zero]
    · have nonzero : (parts x).significand ≠ 0 := by
        rw [significand, ← mantissa]
        exact fun zero => empty (BitVec.toNat_inj.1 zero)
      rw [dif_neg empty, Parts.unpacked_of_nonzero nonzero]
      refine finite_congr (mantissa.trans significand.symm) ?_
      rw [parts_exponent, exponent, biased]
      rfl
  · have biased : ¬ x.toBits.toNat / 2 ^ 52 % 2 ^ 11 = 0 := by
      rw [← exponent]
      exact fun zero => subnormal (BitVec.toNat_inj.1 zero)
    have significand := parts_significand x
    rw [if_neg biased] at significand
    have nonzero : (parts x).significand ≠ 0 := by omega
    rw [if_neg subnormal, Parts.unpacked_of_nonzero nonzero]
    apply finite_congr
    · rw [toNat_one_append, mantissa, significand, Nat.add_comm]
    · rw [parts_exponent, exponent]
      change ((x.toBits.toNat / 2 ^ 52 % 2 ^ 11 : Nat) : Int) - 1075 = _
      omega

theorem isFinite_of_parts (finite : (parts x).IsFinite) : x.isFinite = true := by
  change x.toModel.unpack.isFinite = true
  rw [unpack_eq finite]
  obtain zero | ⟨_, nonzero⟩ := (parts x).unpacked_zero_or_finite
  · rw [zero]
    rfl
  · rw [nonzero]
    rfl

theorem isNaN_of_parts (finite : (parts x).IsFinite) : x.isNaN = false := by
  change x.toModel.unpack.isNaN = false
  rw [unpack_eq finite]
  obtain zero | ⟨_, nonzero⟩ := (parts x).unpacked_zero_or_finite
  · rw [zero]
    rfl
  · rw [nonzero]
    rfl

theorem isInf_of_parts (finite : (parts x).IsFinite) : x.isInf = false := by
  change x.toModel.unpack.isInf = false
  rw [unpack_eq finite]
  obtain zero | ⟨_, nonzero⟩ := (parts x).unpacked_zero_or_finite
  · rw [zero]
    rfl
  · rw [nonzero]
    rfl

theorem unpack_toFloat {p : Parts} (canonical : p.Canonical) (finite : p.IsFinite) :
    p.toFloat.toModel.unpack = p.unpacked := by
  have same := Parts.parts_toFloat canonical finite
  rw [unpack_eq (same.symm ▸ finite), same]

/-- A finite number other than the negative zero. -/
structure Ordinary (x : Float) : Prop where
  finite : (parts x).IsFinite
  notNegativeZero : ¬ (parts x).IsNegativeZero

theorem compare_eq (first : Ordinary x) (second : Ordinary y) :
    x.toModel.unpack.compare y.toModel.unpack = some (compare (orderKey x) (orderKey y)) := by
  rw [unpack_eq first.finite, unpack_eq second.finite,
    Parts.compare_unpacked (parts_canonical x) (parts_canonical y) first.notNegativeZero
      second.notNegativeZero, orderKey_eq, orderKey_eq]

theorem lt_iff_orderKey_lt (first : Ordinary x) (second : Ordinary y) :
    x < y ↔ orderKey x < orderKey y := by
  have compared := compare_eq first second
  change decide ((x.toModel.unpack.compare y.toModel.unpack == some .lt) = true) = true ↔ _
  rw [compared, decide_eq_true_eq, beq_iff_eq, Option.some.injEq, Int.compare_eq_lt]

theorem beq_iff_orderKey_eq (first : Ordinary x) (second : Ordinary y) :
    (x == y) = true ↔ orderKey x = orderKey y := by
  have compared := compare_eq first second
  change (x.toModel.unpack.compare y.toModel.unpack == some .eq) = true ↔ _
  rw [compared, beq_iff_eq, Option.some.injEq, Int.compare_eq_eq]

end Spreadsheet.Binary64

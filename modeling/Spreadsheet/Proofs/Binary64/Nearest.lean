import Spreadsheet.Binary64
import Spreadsheet.Proofs.Decimal

/-!
Whole numbers that a floating-point number can hold. These have at most 53 binary digits, apart
from zeros at their end; of any other whole number the surplus digits are rounded away, a half to
the even neighbour.

The main statements are that rounding keeps the order of the integers, though not all differences
between them, and that it changes no integer of at most 53 binary digits.
-/

set_option autoImplicit false

namespace Spreadsheet.Binary64

open Decimal

def surplusDigits (n : Nat) : Nat :=
  n.log2 - 52

def IsShort (n : Nat) : Prop :=
  2 ^ surplusDigits n ∣ n

instance (n : Nat) : Decidable (IsShort n) :=
  inferInstanceAs (Decidable (2 ^ surplusDigits n ∣ n))

def nearestNat (n : Nat) : Nat :=
  roundHalfEven n (2 ^ surplusDigits n) * 2 ^ surplusDigits n

/-- The natural number without surplus digits that is nearest to a quotient. Of a quotient whose
whole part has fewer than 53 digits the rest is rounded to a whole number. -/
def nearestQuotient (numerator denominator : Nat) : Nat :=
  roundHalfEven numerator (denominator * 2 ^ surplusDigits (numerator / denominator)) *
    2 ^ surplusDigits (numerator / denominator)

/-- The integer without surplus digits that is nearest to an integer, the even one of two. -/
def nearest (n : Int) : Int :=
  if n < 0 then -(nearestNat n.natAbs : Int) else nearestNat n.natAbs

theorem log2_le_log2 {m n : Nat} (h : m ≤ n) : m.log2 ≤ n.log2 := by
  by_cases zero : m = 0
  · rw [zero]
    exact Nat.zero_le _
  · exact (Nat.le_log2 (by omega)).2 (Nat.le_trans (Nat.log2_self_le zero) h)

theorem log2_mul_two_pow {n : Nat} (nonzero : n ≠ 0) (zeros : Nat) :
    (n * 2 ^ zeros).log2 = n.log2 + zeros := by
  have unit := Nat.two_pow_pos zeros
  rw [Nat.log2_eq_iff (Nat.mul_ne_zero nonzero (Nat.ne_of_gt unit)), Nat.pow_add]
  constructor
  · exact Nat.mul_le_mul_right _ (Nat.log2_self_le nonzero)
  · rw [Nat.add_right_comm, Nat.pow_add]
    exact Nat.mul_lt_mul_of_pos_right Nat.lt_log2_self unit

theorem nearestNat_of_isShort {n : Nat} (short : IsShort n) : nearestNat n = n := by
  have whole : n / 2 ^ surplusDigits n * 2 ^ surplusDigits n = n := Nat.div_mul_cancel short
  have rounded := roundHalfEven_mul (n / 2 ^ surplusDigits n) (Nat.two_pow_pos (surplusDigits n))
  rw [whole] at rounded
  rw [nearestNat, rounded, whole]

theorem isShort_of_lt {n : Nat} (h : n < 2 ^ 53) : IsShort n := by
  have none : surplusDigits n = 0 := by
    by_cases zero : n = 0
    · rw [zero]
      rfl
    · have := (Nat.log2_lt zero).2 h
      unfold surplusDigits
      omega
  rw [IsShort, none]
  exact Nat.one_dvd n

theorem isShort_two_pow (k : Nat) : IsShort (2 ^ k) := by
  rw [IsShort, surplusDigits, Nat.log2_two_pow]
  exact Nat.pow_dvd_pow 2 (Nat.sub_le k 52)

theorem isShort_of_le {n : Nat} (h : n ≤ 2 ^ 53) : IsShort n := by
  rcases Nat.lt_or_eq_of_le h with below | same
  · exact isShort_of_lt below
  · rw [same]
    exact isShort_two_pow 53

theorem isShort_mul_two_pow {n : Nat} (short : IsShort n) (zeros : Nat) :
    IsShort (n * 2 ^ zeros) := by
  by_cases zero : n = 0
  · rw [zero, Nat.zero_mul]
    exact isShort_of_lt (by decide)
  · refine Nat.dvd_trans (Nat.pow_dvd_pow 2 ?_) (Nat.pow_add .. ▸ Nat.mul_dvd_mul_right short _)
    rw [surplusDigits, log2_mul_two_pow zero, surplusDigits]
    omega

theorem nearestQuotient_one (n : Nat) : nearestQuotient n 1 = nearestNat n := by
  rw [nearestQuotient, nearestNat, Nat.div_one, Nat.one_mul]

section Quotient

variable {numerator denominator : Nat}

theorem pos_of_div_ne_zero (large : numerator / denominator ≠ 0) : 0 < denominator := by
  refine Nat.pos_of_ne_zero fun zero => large ?_
  rw [zero, Nat.div_zero]

theorem div_ne_zero_of_long (long : 52 ≤ (numerator / denominator).log2) :
    numerator / denominator ≠ 0 := by
  intro zero
  rw [zero] at long
  exact absurd long (by decide)

theorem nearestQuotient_mul_right (numerator denominator : Nat) {factor : Nat}
    (positive : 0 < factor) :
    nearestQuotient (numerator * factor) (denominator * factor) =
      nearestQuotient numerator denominator := by
  rw [nearestQuotient, Nat.mul_div_mul_right _ _ positive, Nat.mul_right_comm,
    roundHalfEven_mul_right _ _ positive]
  rfl

theorem nearestQuotient_mul {n : Nat} (short : IsShort n) (positive : 0 < denominator) :
    nearestQuotient (n * denominator) denominator = n := by
  have common := nearestQuotient_mul_right n 1 positive
  rw [Nat.one_mul] at common
  rw [common, nearestQuotient_one, nearestNat_of_isShort short]

theorem log2_mul_two_pow_div (large : numerator / denominator ≠ 0) (zeros : Nat) :
    (numerator * 2 ^ zeros / denominator).log2 = (numerator / denominator).log2 + zeros := by
  have positive := pos_of_div_ne_zero large
  have unit := Nat.two_pow_pos zeros
  have low := (Nat.le_div_iff_mul_le positive).1 (Nat.log2_self_le large)
  have high := (Nat.div_lt_iff_lt_mul positive).1 (Nat.lt_log2_self (n := numerator / denominator))
  have above :
      2 ^ ((numerator / denominator).log2 + zeros) ≤ numerator * 2 ^ zeros / denominator := by
    rw [Nat.le_div_iff_mul_le positive, Nat.pow_add, Nat.mul_right_comm]
    exact Nat.mul_le_mul_right _ low
  refine (Nat.log2_eq_iff ?_).2 ⟨above, ?_⟩
  · exact Nat.ne_of_gt (Nat.lt_of_lt_of_le (Nat.two_pow_pos _) above)
  · rw [Nat.div_lt_iff_lt_mul positive, Nat.add_right_comm, Nat.pow_add, Nat.mul_right_comm]
    exact Nat.mul_lt_mul_of_pos_right high unit

theorem nearestQuotient_mul_two_pow (long : 52 ≤ (numerator / denominator).log2) (zeros : Nat) :
    nearestQuotient (numerator * 2 ^ zeros) denominator =
      nearestQuotient numerator denominator * 2 ^ zeros := by
  have large := div_ne_zero_of_long long
  have surplus : surplusDigits (numerator * 2 ^ zeros / denominator) =
      surplusDigits (numerator / denominator) + zeros := by
    rw [surplusDigits, log2_mul_two_pow_div large, surplusDigits]
    omega
  rw [nearestQuotient, surplus, Nat.pow_add, ← Nat.mul_assoc denominator,
    roundHalfEven_mul_right _ _ (Nat.two_pow_pos zeros), ← Nat.mul_assoc]
  rfl

theorem nearestNat_mul_two_pow (n zeros : Nat) :
    nearestNat (n * 2 ^ zeros) = nearestNat n * 2 ^ zeros := by
  by_cases long : 52 ≤ n.log2
  · have product := @nearestQuotient_mul_two_pow n 1 (by rwa [Nat.div_one]) zeros
    rwa [nearestQuotient_one, nearestQuotient_one] at product
  · have short : IsShort n := isShort_of_lt (by
      by_cases zero : n = 0
      · omega
      · exact (Nat.log2_lt zero).1 (by omega))
    rw [nearestNat_of_isShort short, nearestNat_of_isShort (isShort_mul_two_pow short zeros)]

theorem nearestQuotient_bounds (large : numerator / denominator ≠ 0) :
    2 ^ (numerator / denominator).log2 ≤ nearestQuotient numerator denominator ∧
      nearestQuotient numerator denominator ≤ 2 ^ ((numerator / denominator).log2 + 1) := by
  have positive := pos_of_div_ne_zero large
  have low := (Nat.le_div_iff_mul_le positive).1 (Nat.log2_self_le large)
  have high := (Nat.div_lt_iff_lt_mul positive).1 (Nat.lt_log2_self (n := numerator / denominator))
  have surplus : surplusDigits (numerator / denominator) ≤ (numerator / denominator).log2 :=
    Nat.sub_le _ _
  unfold nearestQuotient
  generalize surplusDigits (numerator / denominator) = places at surplus ⊢
  generalize (numerator / denominator).log2 = digits at low high surplus ⊢
  have unit : 0 < denominator * 2 ^ places := Nat.mul_pos positive (Nat.two_pow_pos places)
  have split (digits : Nat) (places_le : places ≤ digits) :
      2 ^ (digits - places) * 2 ^ places = 2 ^ digits := by
    rw [← Nat.pow_add, Nat.sub_add_cancel places_le]
  have scaled (digits : Nat) (places_le : places ≤ digits) :
      2 ^ (digits - places) * (denominator * 2 ^ places) = 2 ^ digits * denominator := by
    rw [Nat.mul_left_comm, split digits places_le, Nat.mul_comm]
  constructor
  · rw [← split digits surplus]
    exact Nat.mul_le_mul_right _ (le_roundHalfEven unit (scaled digits surplus ▸ low))
  · have next : places ≤ digits + 1 := Nat.le_succ_of_le surplus
    rw [← split (digits + 1) next]
    exact Nat.mul_le_mul_right _
      (roundHalfEven_le unit (scaled (digits + 1) next ▸ Nat.le_of_lt high))

theorem nearestQuotient_ne_zero (large : numerator / denominator ≠ 0) :
    nearestQuotient numerator denominator ≠ 0 :=
  Nat.ne_of_gt (Nat.lt_of_lt_of_le (Nat.two_pow_pos _) (nearestQuotient_bounds large).1)

theorem log2_nearestQuotient (large : numerator / denominator ≠ 0) :
    (nearestQuotient numerator denominator).log2 = (numerator / denominator).log2 ∨
      nearestQuotient numerator denominator = 2 ^ ((numerator / denominator).log2 + 1) := by
  obtain ⟨low, high⟩ := nearestQuotient_bounds large
  by_cases carried :
      nearestQuotient numerator denominator = 2 ^ ((numerator / denominator).log2 + 1)
  · exact Or.inr carried
  · exact Or.inl ((Nat.log2_eq_iff (nearestQuotient_ne_zero large)).2
      ⟨low, Nat.lt_of_le_of_ne high carried⟩)

theorem isShort_nearestQuotient (large : numerator / denominator ≠ 0) :
    IsShort (nearestQuotient numerator denominator) := by
  rcases log2_nearestQuotient large with same | carried
  · have unchanged : surplusDigits (nearestQuotient numerator denominator) =
        surplusDigits (numerator / denominator) := by
      rw [surplusDigits, same, surplusDigits]
    rw [IsShort, unchanged]
    exact Nat.dvd_mul_left _ _
  · rw [carried]
    exact isShort_two_pow _

theorem nearestQuotient_mono {smaller larger : Nat} (h : smaller ≤ larger)
    (large : smaller / denominator ≠ 0) :
    nearestQuotient smaller denominator ≤ nearestQuotient larger denominator := by
  have ordered : smaller / denominator ≤ larger / denominator := Nat.div_le_div_right h
  have digits := log2_le_log2 ordered
  by_cases same : surplusDigits (smaller / denominator) = surplusDigits (larger / denominator)
  · rw [nearestQuotient, nearestQuotient, same]
    exact Nat.mul_le_mul_right _ (roundHalfEven_mono _ h)
  · have more : (smaller / denominator).log2 + 1 ≤ (larger / denominator).log2 := by
      unfold surplusDigits at same
      omega
    calc nearestQuotient smaller denominator
        ≤ 2 ^ ((smaller / denominator).log2 + 1) := (nearestQuotient_bounds large).2
      _ ≤ 2 ^ (larger / denominator).log2 := Nat.pow_le_pow_right (by decide) more
      _ ≤ nearestQuotient larger denominator :=
        (nearestQuotient_bounds fun zero => large (Nat.le_zero.1 (zero ▸ ordered))).1

/-- Rounding changes a quotient with 53 digits by less than one part in 2 ^ 53. -/
theorem nearestQuotient_near (long : 52 ≤ (numerator / denominator).log2) :
    2 ^ 53 * (nearestQuotient numerator denominator * denominator) ≤
        2 ^ 53 * numerator + nearestQuotient numerator denominator * denominator ∧
      2 ^ 53 * numerator ≤ 2 ^ 53 * (nearestQuotient numerator denominator * denominator) +
        nearestQuotient numerator denominator * denominator := by
  have large := div_ne_zero_of_long long
  have positive := pos_of_div_ne_zero large
  have unit : 0 < denominator * 2 ^ surplusDigits (numerator / denominator) :=
    Nat.mul_pos positive (Nat.two_pow_pos _)
  have within := roundHalfEven_within_half numerator _ unit
  have leading : 2 ^ 52 * (denominator * 2 ^ surplusDigits (numerator / denominator)) ≤
      nearestQuotient numerator denominator * denominator := by
    rw [Nat.mul_left_comm, ← Nat.pow_add, surplusDigits, Nat.add_sub_cancel' long, Nat.mul_comm]
    exact Nat.mul_le_mul_right _ (nearestQuotient_bounds large).1
  have product : nearestQuotient numerator denominator * denominator =
      roundHalfEven numerator (denominator * 2 ^ surplusDigits (numerator / denominator)) *
        (denominator * 2 ^ surplusDigits (numerator / denominator)) := by
    rw [nearestQuotient, Nat.mul_assoc, Nat.mul_comm (2 ^ _) denominator]
  rw [Nat.mul_assoc, ← product] at within
  omega

end Quotient

theorem nearestNat_bounds {n : Nat} (positive : n ≠ 0) :
    2 ^ n.log2 ≤ nearestNat n ∧ nearestNat n ≤ 2 ^ (n.log2 + 1) := by
  have bounds := @nearestQuotient_bounds n 1 (by rwa [Nat.div_one])
  rwa [nearestQuotient_one, Nat.div_one] at bounds

theorem nearestNat_ne_zero {n : Nat} (nonzero : n ≠ 0) : nearestNat n ≠ 0 :=
  Nat.ne_of_gt (Nat.lt_of_lt_of_le (Nat.two_pow_pos _) (nearestNat_bounds nonzero).1)

theorem log2_nearestNat {n : Nat} (positive : n ≠ 0) :
    (nearestNat n).log2 = n.log2 ∨ nearestNat n = 2 ^ (n.log2 + 1) := by
  have digits := @log2_nearestQuotient n 1 (by rwa [Nat.div_one])
  rwa [nearestQuotient_one, Nat.div_one] at digits

theorem log2_nearestNat_lt {n bound : Nat} (h : n.log2 < bound) :
    (nearestNat n).log2 < bound + 1 := by
  by_cases zero : n = 0
  · rw [zero]
    exact Nat.succ_pos bound
  · rcases log2_nearestNat zero with same | carried
    · omega
    · rw [carried, Nat.log2_two_pow]
      omega

theorem isShort_nearestNat (n : Nat) : IsShort (nearestNat n) := by
  by_cases zero : n = 0
  · rw [zero]
    exact isShort_of_lt (by decide)
  · rw [← nearestQuotient_one]
    exact isShort_nearestQuotient (by rwa [Nat.div_one])

theorem nearestNat_mono {m n : Nat} (h : m ≤ n) : nearestNat m ≤ nearestNat n := by
  by_cases zero : m = 0
  · rw [zero]
    exact Nat.zero_le _
  · rw [← nearestQuotient_one, ← nearestQuotient_one]
    exact nearestQuotient_mono h (by rwa [Nat.div_one])

theorem nearestNat_eq_self_iff {n : Nat} : nearestNat n = n ↔ IsShort n :=
  ⟨fun same => same ▸ isShort_nearestNat n, nearestNat_of_isShort⟩

theorem natAbs_nearest (n : Int) : (nearest n).natAbs = nearestNat n.natAbs := by
  unfold nearest
  split <;> omega

theorem nearest_neg_iff {n : Int} : nearest n < 0 ↔ n < 0 := by
  unfold nearest
  split
  · rename_i negative
    have := nearestNat_ne_zero (show n.natAbs ≠ 0 by omega)
    omega
  · omega

theorem nearest_eq_self_iff {n : Int} : nearest n = n ↔ IsShort n.natAbs := by
  rw [← nearestNat_eq_self_iff]
  unfold nearest
  split <;> omega

theorem nearest_eq_self {n : Int} (small : n.natAbs ≤ 2 ^ 53) : nearest n = n :=
  nearest_eq_self_iff.2 (isShort_of_le small)

theorem nearest_mono {m n : Int} (h : m ≤ n) : nearest m ≤ nearest n := by
  unfold nearest
  split <;> split
  · have := nearestNat_mono (show n.natAbs ≤ m.natAbs by omega)
    omega
  · omega
  · omega
  · have := nearestNat_mono (show m.natAbs ≤ n.natAbs by omega)
    omega

/-- A half goes to the even neighbour, so that neighbouring integers may become equal. -/
example : [9007199254740992, 9007199254740993, 9007199254740994, 9007199254740995].map nearest =
    [9007199254740992, 9007199254740992, 9007199254740994, 9007199254740996] := by
  decide

end Spreadsheet.Binary64

import Spreadsheet.Proofs.Binary64.Integer

/-!
Quotients of whole numbers as floating-point numbers. Both are divided after enough zeros are put
behind the first for the whole part of the quotient to be long; how many does not matter, and
neither does a common factor.

The main statements are that division of converted numbers and a decimal with digits after the
point both give the number nearest to the quotient, that this number is as large as a number of
halves only if the quotient is, and that larger quotients are not nearest to smaller numbers.
-/

set_option autoImplicit false

namespace Spreadsheet.Binary64

open Float.Model (Format UnpackedFloat)
open Float.Model.UnpackedFloat

section Digits

variable {numerator denominator : Nat}

theorem le_log2_div (nonzero : numerator ≠ 0) (positive : 0 < denominator) {digits : Nat}
    (h : denominator.log2 + digits + 1 ≤ numerator.log2) :
    digits ≤ (numerator / denominator).log2 := by
  have enough : 2 ^ digits ≤ numerator / denominator := by
    rw [Nat.le_div_iff_mul_le positive]
    calc 2 ^ digits * denominator
        ≤ 2 ^ digits * 2 ^ (denominator.log2 + 1) :=
          Nat.mul_le_mul_left _ (Nat.le_of_lt Nat.lt_log2_self)
      _ = 2 ^ (denominator.log2 + digits + 1) := by
          rw [← Nat.pow_add]
          congr 1
          omega
      _ ≤ 2 ^ numerator.log2 := Nat.pow_le_pow_right (by decide) h
      _ ≤ numerator := Nat.log2_self_le nonzero
  have large : numerator / denominator ≠ 0 :=
    Nat.ne_of_gt (Nat.lt_of_lt_of_le (Nat.two_pow_pos _) enough)
  exact (Nat.le_log2 large).2 enough

theorem log2_div_add_le (large : numerator / denominator ≠ 0) :
    (numerator / denominator).log2 + denominator.log2 ≤ numerator.log2 := by
  have positive := pos_of_div_ne_zero large
  have nonzero : numerator ≠ 0 := by
    rintro rfl
    exact large (Nat.zero_div _)
  have low := (Nat.le_div_iff_mul_le positive).1 (Nat.log2_self_le large)
  refine (Nat.le_log2 nonzero).2 (Nat.le_trans ?_ low)
  rw [Nat.pow_add]
  exact Nat.mul_le_mul_left _ (Nat.log2_self_le (Nat.ne_of_gt positive))

theorem log2_long (nonzero : numerator ≠ 0) (positive : 0 < denominator) {zeros : Nat}
    (enough : denominator.log2 + 53 ≤ zeros) :
    52 ≤ (numerator * 2 ^ zeros / denominator).log2 := by
  refine le_log2_div (Nat.mul_ne_zero nonzero (Nat.ne_of_gt (Nat.two_pow_pos _))) positive ?_
  rw [log2_mul_two_pow nonzero]
  omega

theorem nearestQuotient_zero (denominator : Nat) : nearestQuotient 0 denominator = 0 := by
  rw [nearestQuotient, Nat.zero_div, Decimal.roundHalfEven_eq, Nat.zero_mod, Nat.zero_div,
    if_neg (by omega), Nat.zero_mul]

end Digits

namespace Parts

def ofQuotient (negative : Bool) (numerator denominator : Nat) : Parts :=
  ofDyadic negative (nearestQuotient (numerator * 2 ^ (denominator.log2 + 53)) denominator)
    (-(denominator.log2 + 53 : Nat))

variable (negative : Bool)

theorem ofDyadic_congr {n₁ d₁ n₂ d₂ : Nat} {e₁ e₂ : Int} {zeros₁ zeros₂ : Nat}
    (long₁ : 52 ≤ (n₁ / d₁).log2) (long₂ : 52 ≤ (n₂ / d₂).log2)
    (exponents : e₁ + zeros₂ = e₂ + zeros₁)
    (same : n₁ * 2 ^ zeros₁ * d₂ = n₂ * 2 ^ zeros₂ * d₁) :
    ofDyadic negative (nearestQuotient n₁ d₁) e₁ =
      ofDyadic negative (nearestQuotient n₂ d₂) e₂ := by
  have large₁ := div_ne_zero_of_long long₁
  have large₂ := div_ne_zero_of_long long₂
  have first := ofDyadic_mul_two_pow negative (nearestQuotient_ne_zero large₁) zeros₁ (e₁ - zeros₁)
  have second := ofDyadic_mul_two_pow negative (nearestQuotient_ne_zero large₂) zeros₂ (e₂ - zeros₂)
  have lowered : e₁ - zeros₁ = e₂ - zeros₂ := by omega
  rw [Int.sub_add_cancel, ← nearestQuotient_mul_two_pow long₁,
    ← nearestQuotient_mul_right _ _ (pos_of_div_ne_zero large₂)] at first
  rw [Int.sub_add_cancel, ← nearestQuotient_mul_two_pow long₂,
    ← nearestQuotient_mul_right _ _ (pos_of_div_ne_zero large₁)] at second
  rw [← first, ← second, lowered, same, Nat.mul_comm d₁]

section Quotient

variable {numerator denominator : Nat}

theorem ofQuotient_zero : ofQuotient negative 0 denominator = ofWhole negative 0 := by
  rw [ofQuotient, Nat.zero_mul, nearestQuotient_zero]
  rfl

theorem ofDyadic_eq_ofQuotient {n d : Nat} {zeros more : Nat} (nonzero : numerator ≠ 0)
    (positive : 0 < denominator) (long : 52 ≤ (n / d).log2)
    (same : n * 2 ^ zeros * denominator = numerator * 2 ^ more * d) :
    ofDyadic negative (nearestQuotient n d) (zeros - more) =
      ofQuotient negative numerator denominator := by
  unfold ofQuotient
  generalize enough : denominator.log2 + 53 = own
  refine @ofDyadic_congr negative n d _ _ _ _ (zeros + own) more long
    (log2_long nonzero positive (Nat.le_of_eq enough)) (by omega) ?_
  rw [Nat.pow_add, ← Nat.mul_assoc, Nat.mul_right_comm, same]
  ac_rfl

/-- Any number of zeros will do that makes the quotient long. -/
theorem ofQuotient_eq (nonzero : numerator ≠ 0) (positive : 0 < denominator) {zeros : Nat}
    (enough : denominator.log2 + 53 ≤ zeros) :
    ofQuotient negative numerator denominator =
      ofDyadic negative (nearestQuotient (numerator * 2 ^ zeros) denominator) (-zeros) := by
  have same := @ofDyadic_eq_ofQuotient negative numerator denominator (numerator * 2 ^ zeros)
    denominator 0 zeros nonzero positive (log2_long nonzero positive enough) (by
      rw [Nat.pow_zero, Nat.mul_one])
  rw [← same, Int.natCast_zero, Int.zero_sub]

theorem ofQuotient_congr {n d : Nat} (nonzero : numerator ≠ 0) (positive : 0 < denominator)
    (other : 0 < d) (same : numerator * d = n * denominator) :
    ofQuotient negative numerator denominator = ofQuotient negative n d := by
  have otherNonzero : n ≠ 0 := by
    rintro rfl
    rw [Nat.zero_mul] at same
    exact Nat.mul_ne_zero nonzero (Nat.ne_of_gt other) same
  have swapped := @ofDyadic_eq_ofQuotient negative numerator denominator
    (n * 2 ^ (d.log2 + 53)) d 0 (d.log2 + 53) nonzero positive
    (log2_long otherNonzero other (Nat.le_refl _)) (by
      rw [Nat.pow_zero, Nat.mul_one, Nat.mul_right_comm, ← same, Nat.mul_right_comm])
  rw [← swapped, Int.natCast_zero, Int.zero_sub]
  rfl

theorem exponent_ofQuotient_bounds (nonzero : numerator ≠ 0) (positive : 0 < denominator) :
    (numerator.log2 : Int) - denominator.log2 - 53 ≤
        (ofQuotient negative numerator denominator).exponent ∧
      (ofQuotient negative numerator denominator).exponent ≤
        numerator.log2 - denominator.log2 - 51 := by
  have long := log2_long nonzero positive (Nat.le_refl (denominator.log2 + 53))
  have large := div_ne_zero_of_long long
  have high := log2_div_add_le large
  have low := @le_log2_div (numerator * 2 ^ (denominator.log2 + 53)) denominator
    (Nat.mul_ne_zero nonzero (Nat.ne_of_gt (Nat.two_pow_pos _))) positive (numerator.log2 + 52) (by
      rw [log2_mul_two_pow nonzero]
      omega)
  have digits := log2_nearestQuotient large
  rw [log2_mul_two_pow nonzero] at high
  rw [ofQuotient, exponent_ofDyadic negative (nearestQuotient_ne_zero large)]
  rcases digits with same | carried
  · omega
  · rw [carried, Nat.log2_two_pow]
    omega

theorem ofQuotient_canonical (numerator : Nat) (positive : 0 < denominator)
    (fine : denominator.log2 < 1022) :
    (ofQuotient negative numerator denominator).Canonical := by
  by_cases zero : numerator = 0
  · rw [zero, ofQuotient_zero]
    exact ofWhole_canonical negative 0
  · have large := div_ne_zero_of_long (log2_long zero positive (Nat.le_refl _))
    obtain ⟨low, high⟩ := significand_bounds negative (nearestQuotient_ne_zero large)
    have exponent := (exponent_ofQuotient_bounds negative zero positive).1
    exact ⟨high, by omega, fun below => absurd below (Nat.not_lt.2 low)⟩

theorem ofQuotient_finite (positive : 0 < denominator) (bounded : numerator.log2 < 1023) :
    (ofQuotient negative numerator denominator).IsFinite := by
  by_cases zero : numerator = 0
  · rw [zero, ofQuotient_zero]
    exact ofWhole_finite negative (by decide)
  · have exponent := (exponent_ofQuotient_bounds negative zero positive).2
    unfold IsFinite
    omega

theorem numerator_ofDyadic {whole zeros : Nat} (short : IsShort whole) :
    (ofDyadic negative whole (-zeros)).numerator * 2 ^ zeros =
      whole * (ofDyadic negative whole (-zeros)).denominator := by
  by_cases zero : whole = 0
  · rw [zero, numerator]
    change 0 * _ * _ = _
    rw [Nat.zero_mul, Nat.zero_mul, Nat.zero_mul]
  · have product := significand_mul negative short
    have exponent := exponent_ofDyadic negative zero (-zeros)
    apply Nat.mul_right_cancel (Nat.two_pow_pos 52)
    change (ofWhole negative whole).significand *
        2 ^ (ofDyadic negative whole (-zeros)).exponent.toNat * 2 ^ zeros * 2 ^ 52 =
      whole * 2 ^ (-(ofDyadic negative whole (-zeros)).exponent).toNat * 2 ^ 52
    generalize (ofDyadic negative whole (-zeros)).exponent = places at exponent ⊢
    have balanced : places.toNat + zeros + 52 = whole.log2 + (-places).toNat := by omega
    rw [Nat.mul_assoc, Nat.mul_assoc, ← Nat.pow_add, ← Nat.pow_add, ← Nat.add_assoc, balanced,
      Nat.pow_add, ← Nat.mul_assoc, product, Nat.mul_right_comm]

theorem numerator_ofQuotient (numerator : Nat) (positive : 0 < denominator) {zeros : Nat}
    (enough : denominator.log2 + 53 ≤ zeros) :
    (ofQuotient negative numerator denominator).numerator * 2 ^ zeros =
      nearestQuotient (numerator * 2 ^ zeros) denominator *
        (ofQuotient negative numerator denominator).denominator := by
  by_cases zero : numerator = 0
  · rw [zero, ofQuotient_zero, Nat.zero_mul, nearestQuotient_zero, Nat.zero_mul, Parts.numerator,
      significand_zero, Nat.zero_mul, Nat.zero_mul]
  · rw [ofQuotient_eq negative zero positive enough]
    exact numerator_ofDyadic negative
      (isShort_nearestQuotient (div_ne_zero_of_long (log2_long zero positive enough)))

theorem ofQuotient_mono {n d : Nat} (positive : 0 < denominator) (other : 0 < d)
    (h : numerator * d ≤ n * denominator) :
    (ofQuotient negative numerator denominator).numerator * (ofQuotient negative n d).denominator ≤
      (ofQuotient negative n d).numerator *
        (ofQuotient negative numerator denominator).denominator := by
  have first := @numerator_ofQuotient negative denominator numerator positive
    (denominator.log2 + d.log2 + 53) (by omega)
  have second := @numerator_ofQuotient negative d n other
    (denominator.log2 + d.log2 + 53) (by omega)
  have ordered : nearestQuotient (numerator * 2 ^ (denominator.log2 + d.log2 + 53)) denominator ≤
      nearestQuotient (n * 2 ^ (denominator.log2 + d.log2 + 53)) d := by
    by_cases zero : numerator = 0
    · rw [zero, Nat.zero_mul, nearestQuotient_zero]
      exact Nat.zero_le _
    · have large := div_ne_zero_of_long
        (@log2_long numerator denominator zero positive (denominator.log2 + d.log2 + 53) (by omega))
      rw [← nearestQuotient_mul_right _ denominator other, ← nearestQuotient_mul_right _ d positive,
        Nat.mul_comm d, Nat.mul_right_comm, Nat.mul_right_comm n]
      refine nearestQuotient_mono (Nat.mul_le_mul_right _ h) ?_
      rwa [Nat.mul_right_comm, Nat.mul_div_mul_right _ _ other]
  generalize denominator.log2 + d.log2 + 53 = zeros at first second ordered
  apply Nat.le_of_mul_le_mul_right _ (Nat.two_pow_pos zeros)
  rw [Nat.mul_right_comm, first, Nat.mul_right_comm _ _ (2 ^ zeros), second, Nat.mul_right_comm]
  exact Nat.mul_le_mul_right _ (Nat.mul_le_mul_right _ ordered)

/-- The nearest number differs from the quotient by less than one part in 2 ^ 53. -/
theorem ofQuotient_near (numerator : Nat) (positive : 0 < denominator) :
    2 ^ 53 * ((ofQuotient negative numerator denominator).numerator * denominator) ≤
        2 ^ 53 * (numerator * (ofQuotient negative numerator denominator).denominator) +
          (ofQuotient negative numerator denominator).numerator * denominator ∧
      2 ^ 53 * (numerator * (ofQuotient negative numerator denominator).denominator) ≤
        2 ^ 53 * ((ofQuotient negative numerator denominator).numerator * denominator) +
          (ofQuotient negative numerator denominator).numerator * denominator := by
  have magnitude := numerator_ofQuotient negative numerator positive (Nat.le_refl _)
  generalize (ofQuotient negative numerator denominator).numerator = above at magnitude ⊢
  generalize (ofQuotient negative numerator denominator).denominator = below at magnitude ⊢
  by_cases zero : numerator = 0
  · rw [zero, Nat.zero_mul, nearestQuotient_zero, Nat.zero_mul] at magnitude
    have none : above = 0 := (Nat.mul_eq_zero.1 magnitude).resolve_right
      (Nat.ne_of_gt (Nat.two_pow_pos _))
    rw [none, zero, Nat.zero_mul, Nat.zero_mul]
    exact ⟨Nat.le_refl _, Nat.le_refl _⟩
  · obtain ⟨upper, lower⟩ := nearestQuotient_near (log2_long zero positive (Nat.le_refl _))
    generalize denominator.log2 + 53 = zeros at magnitude upper lower
    generalize nearestQuotient (numerator * 2 ^ zeros) denominator = nearest
      at magnitude upper lower
    have unit := Nat.two_pow_pos zeros
    have product : above * denominator * 2 ^ zeros = nearest * denominator * below := by
      rw [Nat.mul_right_comm, magnitude, Nat.mul_right_comm]
    have quotient : numerator * below * 2 ^ zeros = numerator * 2 ^ zeros * below :=
      Nat.mul_right_comm _ _ _
    constructor
    · apply Nat.le_of_mul_le_mul_right _ unit
      rw [Nat.add_mul, Nat.mul_assoc, Nat.mul_assoc (2 ^ 53), product, quotient,
        ← Nat.mul_assoc _ _ below, ← Nat.mul_assoc _ _ below, ← Nat.add_mul]
      exact Nat.mul_le_mul_right below upper
    · apply Nat.le_of_mul_le_mul_right _ unit
      rw [Nat.add_mul, Nat.mul_assoc, Nat.mul_assoc (2 ^ 53), product, quotient,
        ← Nat.mul_assoc _ _ below, ← Nat.mul_assoc _ _ below, ← Nat.add_mul]
      exact Nat.mul_le_mul_right below lower

theorem numerator_halves {halves : Nat} (short : IsShort halves) :
    2 * (ofQuotient negative halves 2).numerator =
      halves * (ofQuotient negative halves 2).denominator := by
  have magnitude := @numerator_ofQuotient negative 2 halves Nat.two_pos 54 (by decide)
  rw [Nat.pow_succ _ 53, ← Nat.mul_assoc halves,
    nearestQuotient_mul (isShort_mul_two_pow short 53) Nat.two_pos] at magnitude
  generalize (ofQuotient negative halves 2).numerator = above at magnitude ⊢
  generalize (ofQuotient negative halves 2).denominator = below at magnitude ⊢
  rw [Nat.mul_right_comm] at magnitude
  omega

section Halves

variable (positive : 0 < denominator) {halves : Nat} (short : IsShort halves)

include positive short

theorem ofQuotient_le_halves (h : 2 * numerator ≤ halves * denominator) :
    2 * (ofQuotient negative numerator denominator).numerator ≤
      halves * (ofQuotient negative numerator denominator).denominator := by
  have ordered := @ofQuotient_mono negative numerator denominator halves 2 positive Nat.two_pos
    (by omega)
  apply Nat.le_of_mul_le_mul_right _ (ofQuotient negative halves 2).denominator_pos
  rw [Nat.mul_right_comm halves, ← numerator_halves negative short, Nat.mul_assoc, Nat.mul_assoc]
  exact Nat.mul_le_mul_left 2 ordered

theorem halves_le_ofQuotient (h : halves * denominator ≤ 2 * numerator) :
    halves * (ofQuotient negative numerator denominator).denominator ≤
      2 * (ofQuotient negative numerator denominator).numerator := by
  have ordered := @ofQuotient_mono negative halves 2 numerator denominator Nat.two_pos positive
    (by omega)
  apply Nat.le_of_mul_le_mul_right _ (ofQuotient negative halves 2).denominator_pos
  rw [Nat.mul_right_comm halves, ← numerator_halves negative short, Nat.mul_assoc, Nat.mul_assoc]
  exact Nat.mul_le_mul_left 2 ordered

omit short in
theorem near_of_halves
    (h : 2 * (ofQuotient negative numerator denominator).numerator =
      halves * (ofQuotient negative numerator denominator).denominator) :
    2 ^ 53 * (halves * denominator) ≤ 2 ^ 53 * (2 * numerator) + halves * denominator ∧
      2 ^ 53 * (2 * numerator) ≤ 2 ^ 53 * (halves * denominator) + halves * denominator := by
  have unit := (ofQuotient negative numerator denominator).denominator_pos
  obtain ⟨upper, lower⟩ := ofQuotient_near negative numerator positive
  generalize (ofQuotient negative numerator denominator).numerator = above at h upper lower
  generalize (ofQuotient negative numerator denominator).denominator = below at h unit upper lower
  have product : halves * denominator * below = 2 * (above * denominator) := by
    rw [Nat.mul_right_comm, ← h, Nat.mul_assoc]
  constructor
  · apply Nat.le_of_mul_le_mul_right _ unit
    rw [Nat.add_mul, Nat.mul_assoc, Nat.mul_assoc (2 ^ 53), Nat.mul_assoc 2, product]
    omega
  · apply Nat.le_of_mul_le_mul_right _ unit
    rw [Nat.add_mul, Nat.mul_assoc, Nat.mul_assoc (2 ^ 53), Nat.mul_assoc 2, product]
    omega

/-- The nearest number compares with a number of halves like the quotient, unless the quotient is
all but equal to these. -/
theorem compare_halves
    (apart : 2 * numerator ≠ halves * denominator →
      2 ^ 53 * (2 * numerator) + halves * denominator < 2 ^ 53 * (halves * denominator) ∨
        2 ^ 53 * (halves * denominator) + halves * denominator < 2 ^ 53 * (2 * numerator)) :
    compare (2 * (ofQuotient negative numerator denominator).numerator)
        (halves * (ofQuotient negative numerator denominator).denominator) =
      compare (2 * numerator) (halves * denominator) := by
  have notMore := @ofQuotient_le_halves negative numerator denominator positive halves short
  have notLess := @halves_le_ofQuotient negative numerator denominator positive halves short
  have near := @near_of_halves negative numerator denominator positive halves
  rcases Nat.lt_trichotomy (2 * numerator) (halves * denominator) with less | equal | more
  · have := notMore (Nat.le_of_lt less)
    have := apart (Nat.ne_of_lt less)
    rw [Nat.compare_eq_lt.2 less, Nat.compare_eq_lt.2 (by omega)]
  · have := notMore (Nat.le_of_eq equal)
    have := notLess (Nat.le_of_eq equal.symm)
    rw [Nat.compare_eq_eq.2 equal, Nat.compare_eq_eq.2 (by omega)]
  · have := notLess (Nat.le_of_lt more)
    have := apart (Nat.ne_of_gt more)
    rw [Nat.compare_eq_gt.2 more, Nat.compare_eq_gt.2 (by omega)]

end Halves

end Quotient

end Parts

end Spreadsheet.Binary64

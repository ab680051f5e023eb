import Spreadsheet.Decimal.Nearest
import Spreadsheet.Proofs.Binary64.Rounded

/-!
Trimming to fifteen significant digits. The number of places after the point is the one that makes
the scaled quotient a number of fifteen digits; rounding may carry it to sixteen.

The main statements are that trimming keeps the order of magnitudes, and that it does not change
the number nearest to a decimal of at most fifteen digits.
-/

set_option autoImplicit false

namespace Spreadsheet.Decimal

theorem digitCount_eq {n places : Nat} (low : 10 ^ places ≤ n) (high : n < 10 ^ (places + 1)) :
    digitCount n = places + 1 := by
  have atMost := (Nat.length_toDigits_le_iff (b := 10) (n := n) (k := places + 1) (by decide)
    (Nat.succ_pos places)).2 high
  have atLeast : ¬ digitCount n ≤ places := by
    intro fewer
    cases places with
    | zero => exact absurd fewer (Nat.not_le.2 Nat.length_toDigits_pos)
    | succ places =>
        have := (Nat.length_toDigits_le_iff (b := 10) (n := n) (by decide)
          (Nat.succ_pos places)).1 fewer
        omega
  change digitCount n ≤ places + 1 at atMost
  omega

variable {numerator denominator places : Nat}

theorem leadingExponent_of_le {whole : Nat} (low : denominator * 10 ^ whole ≤ numerator)
    (high : numerator < denominator * 10 ^ (whole + 1)) :
    leadingExponent numerator denominator = whole := by
  have positive : 0 < denominator := by
    refine Nat.pos_of_ne_zero fun zero => ?_
    rw [zero, Nat.zero_mul] at high
    omega
  have large := Nat.le_trans (Nat.le_mul_of_pos_right denominator (Nat.pow_pos (by decide))) low
  rw [Nat.mul_comm] at low high
  have count := @digitCount_eq (numerator / denominator) whole
    ((Nat.le_div_iff_mul_le positive).2 low) ((Nat.div_lt_iff_lt_mul positive).2 high)
  rw [leadingExponent, if_pos large, count]
  omega

theorem leadingExponent_of_lt {zeros : Nat} (low : denominator ≤ numerator * 10 ^ (zeros + 1))
    (high : numerator * 10 ^ zeros < denominator) :
    leadingExponent numerator denominator = -(zeros + 1 : Nat) := by
  have positive : 0 < numerator := by
    refine Nat.pos_of_ne_zero fun zero => ?_
    rw [zero, Nat.zero_mul] at low
    omega
  have small : ¬ denominator ≤ numerator := by
    have := Nat.le_mul_of_pos_right numerator (show 0 < 10 ^ zeros from Nat.pow_pos (by decide))
    omega
  have inverse :
      (denominator + numerator - 1) / numerator - 1 = (denominator - 1) / numerator := by
    have shifted : denominator + numerator - 1 = denominator - 1 + numerator := by omega
    rw [shifted, Nat.add_div_right _ positive]
    rfl
  rw [Nat.mul_comm] at low high
  have count := @digitCount_eq ((denominator - 1) / numerator) zeros
    ((Nat.le_div_iff_mul_le positive).2 (by omega)) ((Nat.div_lt_iff_lt_mul positive).2 (by omega))
  rw [leadingExponent, if_neg small]
  dsimp only
  rw [inverse, count, Int.negOfNat_eq, Int.ofNat_eq_natCast]

/-- With so many places after the point a quotient has fifteen significant digits. -/
structure FifteenDigits (numerator denominator places : Nat) : Prop where
  low : 10 ^ 14 * denominator ≤ numerator * 10 ^ places
  high : numerator * 10 ^ places < 10 ^ 15 * denominator

theorem leadingExponent_eq (digits : FifteenDigits numerator denominator places) :
    leadingExponent numerator denominator = 14 - places := by
  obtain ⟨low, high⟩ := digits
  rw [Nat.mul_comm] at low
  rw [Nat.mul_comm (10 ^ 15)] at high
  rcases Nat.lt_or_ge 14 places with many | few
  · obtain ⟨zeros, rfl⟩ := Nat.exists_eq_add_of_le (show 15 ≤ places from many)
    have reach : 10 ^ (15 + zeros) = 10 ^ (zeros + 1) * 10 ^ 14 := by
      rw [← Nat.pow_add]
      congr 1
      omega
    rw [reach, ← Nat.mul_assoc] at low
    rw [Nat.pow_add, Nat.mul_comm (10 ^ 15), ← Nat.mul_assoc] at high
    rw [leadingExponent_of_lt (Nat.le_of_mul_le_mul_right low (by decide))
      (Nat.lt_of_mul_lt_mul_right high)]
    omega
  · obtain ⟨whole, sum⟩ := Nat.exists_eq_add_of_le few
    have next : 15 = whole + 1 + places := by omega
    rw [sum, Nat.add_comm, Nat.pow_add, ← Nat.mul_assoc] at low
    rw [next, Nat.pow_add, ← Nat.mul_assoc] at high
    rw [leadingExponent_of_le (Nat.le_of_mul_le_mul_right low (Nat.pow_pos (by decide)))
      (Nat.lt_of_mul_lt_mul_right high)]
    omega

theorem significant_eq (digits : FifteenDigits numerator denominator places) :
    significant 15 numerator denominator =
      { digits := roundHalfEven (numerator * 10 ^ places) denominator, exponent := -places } := by
  have exponent : leadingExponent numerator denominator - ((15 : Nat) - 1 : Int) = -places := by
    rw [leadingExponent_eq digits]
    omega
  have down : (-(-(places : Int))).toNat = places := by omega
  have up : (-(places : Int)).toNat = 0 := by omega
  unfold significant
  rw [exponent]
  dsimp only
  rw [down, up]
  change Scaled.mk (roundHalfEven (numerator * 10 ^ places) (denominator * 1)) _ = _
  rw [Nat.mul_one]

theorem roundedDigits_bounds (digits : FifteenDigits numerator denominator places) :
    10 ^ 14 ≤ roundHalfEven (numerator * 10 ^ places) denominator ∧
      roundHalfEven (numerator * 10 ^ places) denominator ≤ 10 ^ 15 := by
  have positive : 0 < denominator := by
    have := digits.high
    omega
  exact ⟨le_roundHalfEven positive digits.low, roundHalfEven_le positive (Nat.le_of_lt digits.high)⟩

theorem roundedDigits_mono {n d other : Nat} (first : FifteenDigits n d other)
    (second : FifteenDigits numerator denominator places)
    (h : n * denominator ≤ numerator * d) :
    roundHalfEven (n * 10 ^ other) d * 10 ^ places ≤
      roundHalfEven (numerator * 10 ^ places) denominator * 10 ^ other := by
  have firstBounds := roundedDigits_bounds first
  have secondBounds := roundedDigits_bounds second
  rcases Nat.lt_trichotomy places other with fewer | same | more
  · have power := Nat.pow_le_pow_right (show 0 < 10 by decide) (Nat.succ_le_of_lt fewer)
    calc roundHalfEven (n * 10 ^ other) d * 10 ^ places
        ≤ 10 ^ 15 * 10 ^ places := Nat.mul_le_mul_right _ firstBounds.2
      _ = 10 ^ 14 * 10 ^ (places + 1) := by
          rw [← Nat.pow_add, ← Nat.pow_add]
          congr 1
          omega
      _ ≤ roundHalfEven (numerator * 10 ^ places) denominator * 10 ^ other :=
          Nat.mul_le_mul secondBounds.1 power
  · subst same
    refine Nat.mul_le_mul_right _ (roundHalfEven_le_of_mul_le ?_ ?_ ?_)
    · have := first.high
      omega
    · have := second.high
      omega
    · rw [Nat.mul_right_comm, Nat.mul_right_comm numerator]
      exact Nat.mul_le_mul_right _ h
  · have positive : 0 < d := by
      have := first.high
      omega
    have power := Nat.mul_le_mul h (Nat.pow_le_pow_right (show 0 < 10 by decide)
      (Nat.succ_le_of_lt more))
    refine absurd ?_ (Nat.lt_irrefl (10 ^ 15 * denominator * d))
    calc 10 ^ 15 * denominator * d
        = 10 ^ 14 * d * (10 * denominator) := by
          rw [Nat.pow_succ 10 14]
          ac_rfl
      _ ≤ n * 10 ^ other * (10 * denominator) := Nat.mul_le_mul_right _ first.low
      _ = n * denominator * 10 ^ (other + 1) := by
          rw [Nat.pow_succ]
          ac_rfl
      _ ≤ numerator * d * 10 ^ places := power
      _ = numerator * 10 ^ places * d := Nat.mul_right_comm _ _ _
      _ < 10 ^ 15 * denominator * d := Nat.mul_lt_mul_of_pos_right second.high positive

/-- A quotient that is neither too large nor too small has so many places for some number. -/
theorem exists_fifteenDigits {reach : Nat} (large : 10 * numerator < 10 ^ 15 * denominator)
    (small : denominator ≤ 2 * (numerator * 10 ^ reach)) :
    ∃ places, 0 < places ∧ places ≤ reach + 15 ∧ FifteenDigits numerator denominator places := by
  have enough : 10 ^ 14 * denominator ≤ numerator * 10 ^ (reach + 15) := by
    rw [Nat.pow_add, ← Nat.mul_assoc]
    omega
  generalize reach + 15 = bound at enough ⊢
  induction bound with
  | zero =>
      rw [Nat.pow_zero, Nat.mul_one] at enough
      omega
  | succ bound ih =>
      by_cases high : numerator * 10 ^ (bound + 1) < 10 ^ 15 * denominator
      · exact ⟨bound + 1, Nat.succ_pos bound, Nat.le_refl _, enough, high⟩
      · rw [Nat.pow_succ, ← Nat.mul_assoc] at high
        obtain ⟨places, positive, within, digits⟩ := ih (by omega)
        exact ⟨places, positive, Nat.le_succ_of_le within, digits⟩

open Binary64 (Parts)

section Floats

open Binary64.Parts

theorem nearestFloat_eq {digits : Nat} (nonzero : digits ≠ 0) (bounded : digits ≤ 10 ^ 15)
    (positive : 0 < places) (h : places ≤ 300) :
    nearestFloat { digits, exponent := -places } =
      (ofQuotient false digits (10 ^ places)).toFloat := by
  have someDigit : 0 < digitCount digits := Nat.length_toDigits_pos
  have fewDigits : digitCount digits ≤ 16 :=
    (Nat.length_toDigits_le_iff (by decide) (by decide)).2 (by omega)
  have notBeyond : ¬ 400 < (digitCount digits : Int) + -places := by omega
  have notBelow : ¬ (digitCount digits : Int) + -places < -400 := by omega
  rw [← Binary64.ofScientific_eq_ofQuotient nonzero positive h]
  unfold nearestFloat
  dsimp only
  rw [if_neg nonzero, if_neg notBeyond, if_neg notBelow]
  obtain ⟨down, rfl⟩ := Nat.exists_eq_succ_of_ne_zero (Nat.ne_of_gt positive)
  rfl

variable {p : Parts}

theorem trimmed_of_zero {count : Nat} (canonical : p.Canonical) (finite : p.IsFinite)
    (zero : p.significand = 0) : trimmed count p.toFloat = p.toFloat := by
  unfold trimmed
  dsimp only
  rw [parts_toFloat canonical finite, zero, decide_eq_true rfl, Bool.or_true, if_pos rfl]

theorem trimmed_eq (canonical : p.Canonical) (finite : p.IsFinite)
    (digits : FifteenDigits p.numerator p.denominator places) (positive : 0 < places)
    (h : places ≤ 300) :
    trimmed 15 p.toFloat =
      (ofQuotient p.negative (roundHalfEven (p.numerator * 10 ^ places) p.denominator)
        (10 ^ places)).toFloat := by
  have bounds := roundedDigits_bounds digits
  have someDigit : p.significand ≠ 0 := by
    intro zero
    have low := digits.low
    have := p.denominator_pos
    rw [numerator, zero, Nat.zero_mul, Nat.zero_mul] at low
    omega
  have same := parts_toFloat canonical finite
  have isFinite := Binary64.isFinite_of_parts (x := p.toFloat) (same.symm ▸ finite)
  have nonzero : roundHalfEven (p.numerator * 10 ^ places) p.denominator ≠ 0 := by omega
  have magnitude := nearestFloat_eq nonzero bounds.2 positive h
  unfold trimmed
  dsimp only
  rw [same, isFinite, if_neg (by simp [someDigit]), significant_eq digits, magnitude]
  cases p.negative with
  | false => rfl
  | true =>
      have unit : 0 < 10 ^ places := Nat.pow_pos (by decide)
      have someLog : (roundHalfEven (p.numerator * 10 ^ places) p.denominator).log2 < 1023 :=
        Binary64.log2_lt_of_le_pow_ten bounds.2 (by decide)
      rw [if_pos rfl, neg_toFloat
        (ofQuotient_canonical false _ unit (Binary64.log2_pow_ten_lt h))
        (ofQuotient_finite false unit someLog)]
      rfl

theorem roundedDigits_of_near {whole zeros : Nat}
    (digits : FifteenDigits numerator denominator (places + zeros))
    (upper : 2 ^ 53 * (numerator * 10 ^ places) ≤
      2 ^ 53 * (whole * denominator) + numerator * 10 ^ places)
    (lower : 2 ^ 53 * (whole * denominator) ≤
      2 ^ 53 * (numerator * 10 ^ places) + numerator * 10 ^ places) :
    roundHalfEven (numerator * 10 ^ (places + zeros)) denominator = whole * 10 ^ zeros := by
  have high := digits.high
  have upperScaled := Nat.mul_le_mul_right (10 ^ zeros) upper
  have lowerScaled := Nat.mul_le_mul_right (10 ^ zeros) lower
  rw [Nat.pow_add, ← Nat.mul_assoc] at high ⊢
  rw [Nat.add_mul, Nat.mul_assoc, Nat.mul_assoc (2 ^ 53), Nat.mul_right_comm whole]
    at upperScaled lowerScaled
  apply roundHalfEven_of_near <;> omega

/-- The number nearest to a decimal of at most fifteen digits stays. -/
theorem trimmed_ofQuotient (negative : Bool) {whole : Nat} (short : whole < 10 ^ 15)
    (positive : 0 < places) (h : places ≤ 285) :
    trimmed 15 (ofQuotient negative whole (10 ^ places)).toFloat =
      (ofQuotient negative whole (10 ^ places)).toFloat := by
  by_cases zero : whole = 0
  · rw [zero, ofQuotient_zero]
    exact trimmed_of_zero (ofWhole_canonical negative 0) (ofWhole_finite negative (by decide)) rfl
  have unit : 0 < 10 ^ places := Nat.pow_pos (by decide)
  have canonical := ofQuotient_canonical negative whole unit
    (Binary64.log2_pow_ten_lt (show places ≤ 300 by omega))
  have wholeDigits : whole.log2 < 1023 :=
    Binary64.log2_lt_of_le_pow_ten (Nat.le_of_lt short) (by decide)
  have finite := ofQuotient_finite negative unit wholeDigits
  have trim {more : Nat} := @trimmed_eq more _ canonical finite
  have sign : (ofQuotient negative whole (10 ^ places)).negative = negative := rfl
  obtain ⟨upper, lower⟩ := ofQuotient_near negative whole unit
  have below := (ofQuotient negative whole (10 ^ places)).denominator_pos
  rw [sign] at trim
  generalize (ofQuotient negative whole (10 ^ places)).numerator = numerator at *
  generalize (ofQuotient negative whole (10 ^ places)).denominator = denominator at *
  have atLeast := Nat.mul_le_mul_right denominator (Nat.one_le_iff_ne_zero.2 zero)
  have atMost := Nat.mul_le_mul_right denominator (Nat.succ_le_of_lt short)
  rw [Nat.succ_mul] at atMost
  rw [Nat.one_mul] at atLeast
  have fewDigits : numerator * 10 ^ places < 10 ^ 15 * denominator := by omega
  have power := Nat.mul_le_mul_left numerator
    (Nat.pow_le_pow_right (show 0 < 10 by decide) (Nat.succ_le_of_lt positive))
  obtain ⟨more, -, within, digits⟩ := @exists_fifteenDigits numerator denominator
    places (by omega) (by omega)
  have further : places ≤ more := by
    by_contra fewer
    have low := digits.low
    have := Nat.mul_le_mul_left numerator
      (Nat.pow_le_pow_right (show 0 < 10 by decide) (show more + 1 ≤ places by omega))
    rw [Nat.pow_succ, ← Nat.mul_assoc] at this
    omega
  obtain ⟨zeros, rfl⟩ := Nat.exists_eq_add_of_le further
  rw [trim digits (by omega) (by omega), roundedDigits_of_near digits upper lower]
  refine congrArg toFloat (ofQuotient_congr negative ?_ ?_ unit ?_)
  · exact Nat.mul_ne_zero zero (Nat.ne_of_gt (Nat.pow_pos (by decide)))
  · exact Nat.pow_pos (by decide)
  · rw [Nat.pow_add]
    ac_rfl

section Quotients

variable (negative : Bool) {whole : Nat}

def trimmedQuotient (negative : Bool) (numerator denominator : Nat) : Parts :=
  let quotient := ofQuotient negative numerator denominator
  let decimal := significant 15 quotient.numerator quotient.denominator
  ofQuotient negative decimal.digits (10 ^ (-decimal.exponent).toNat)

theorem trimmedQuotient_eq
    (digits : FifteenDigits (ofQuotient negative numerator denominator).numerator
      (ofQuotient negative numerator denominator).denominator places) :
    trimmedQuotient negative numerator denominator =
      ofQuotient negative
        (roundHalfEven ((ofQuotient negative numerator denominator).numerator * 10 ^ places)
          (ofQuotient negative numerator denominator).denominator) (10 ^ places) := by
  have down : (-(-(places : Int))).toNat = places := by omega
  unfold trimmedQuotient
  dsimp only
  rw [significant_eq digits, down]

theorem exists_fifteenDigits_of_le (nonzero : whole ≠ 0) (h : whole ≤ 10 ^ places) :
    ∃ more, 0 < more ∧ more ≤ places + 15 ∧
      FifteenDigits (ofQuotient negative whole (10 ^ places)).numerator
        (ofQuotient negative whole (10 ^ places)).denominator more := by
  have unit : 0 < 10 ^ places := Nat.pow_pos (by decide)
  have below := (ofQuotient negative whole (10 ^ places)).denominator_pos
  obtain ⟨upper, lower⟩ := ofQuotient_near negative whole unit
  generalize (ofQuotient negative whole (10 ^ places)).numerator = numerator at *
  generalize (ofQuotient negative whole (10 ^ places)).denominator = denominator at *
  have atLeast := Nat.mul_le_mul_right denominator (Nat.one_le_iff_ne_zero.2 nonzero)
  have atMost := Nat.mul_le_mul_right denominator h
  have small : (2 ^ 53 - 1) * numerator ≤ 2 ^ 53 * denominator := by
    apply Nat.le_of_mul_le_mul_right _ unit
    rw [Nat.mul_assoc, Nat.mul_assoc, Nat.mul_comm denominator]
    omega
  exact exists_fifteenDigits (by omega) (by omega)

theorem trimmed_of_le (nonzero : whole ≠ 0) (h : whole ≤ 10 ^ places) (few : places ≤ 285) :
    trimmed 15 (ofQuotient negative whole (10 ^ places)).toFloat =
        (trimmedQuotient negative whole (10 ^ places)).toFloat ∧
      (trimmedQuotient negative whole (10 ^ places)).Canonical ∧
      (trimmedQuotient negative whole (10 ^ places)).IsFinite := by
  have unit : 0 < 10 ^ places := Nat.pow_pos (by decide)
  have wholeDigits : whole.log2 < 1023 := Binary64.log2_lt_of_le_pow_ten h (by omega)
  obtain ⟨more, positive, within, digits⟩ := exists_fifteenDigits_of_le negative nonzero h
  have bounds := roundedDigits_bounds digits
  have moreUnit : 0 < 10 ^ more := Nat.pow_pos (by decide)
  have fine := Binary64.log2_pow_ten_lt (show more ≤ 300 by omega)
  rw [trimmedQuotient_eq negative digits, trimmed_eq (ofQuotient_canonical negative _ unit
    (Binary64.log2_pow_ten_lt (by omega))) (ofQuotient_finite negative unit wholeDigits) digits
    positive (by omega)]
  exact ⟨rfl, ofQuotient_canonical negative _ moreUnit fine, ofQuotient_finite negative moreUnit
    (Binary64.log2_lt_of_le_pow_ten bounds.2 (by decide))⟩

/-- Trimming keeps the order of decimals between zero and one, and so does rounding after it. -/
theorem rounded_trimmedQuotient_mono (mode : Binary64.Rounding) {smaller larger : Nat}
    (nonzero : smaller ≠ 0) (ordered : smaller ≤ larger) (h : larger ≤ 10 ^ places) :
    (trimmedQuotient negative smaller (10 ^ places)).rounded mode ≤
      (trimmedQuotient negative larger (10 ^ places)).rounded mode := by
  have unit : 0 < 10 ^ places := Nat.pow_pos (by decide)
  obtain ⟨more, -, -, first⟩ := exists_fifteenDigits_of_le negative nonzero
    (Nat.le_trans ordered h)
  obtain ⟨other, -, -, second⟩ := exists_fifteenDigits_of_le negative
    (show larger ≠ 0 by omega) h
  rw [trimmedQuotient_eq negative first, trimmedQuotient_eq negative second]
  exact rounded_ofQuotient_mono mode negative (Nat.pow_pos (by decide)) (Nat.pow_pos (by decide))
    (roundedDigits_mono first second
      (ofQuotient_mono negative unit unit (Nat.mul_le_mul_right _ ordered)))

end Quotients

end Floats

end Spreadsheet.Decimal

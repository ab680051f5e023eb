import Spreadsheet.Proofs.Binary64.Arithmetic

/-!
Rounding quotients to whole numbers. Whether a quotient is rounded up depends on where it lies among
the halves, so that numbers which compare alike with these are rounded alike.

The main statements are that the number nearest to a decimal of at most fifteen digits is rounded
like the decimal, and that larger quotients are not rounded to smaller whole numbers.
-/

set_option autoImplicit false

namespace Spreadsheet.Binary64

def Rounding.quotient (mode : Rounding) (negative : Bool) (numerator denominator : Nat) : Nat :=
  match mode with
  | .down =>
      if negative && !(numerator % denominator == 0) then numerator / denominator + 1
      else numerator / denominator
  | .up =>
      if !negative && !(numerator % denominator == 0) then numerator / denominator + 1
      else numerator / denominator
  | .towardZero => numerator / denominator
  | .halfAway =>
      if denominator ≤ 2 * (numerator % denominator) then numerator / denominator + 1
      else numerator / denominator

theorem Parts.rounded_eq_quotient (mode : Rounding) (p : Parts) :
    p.rounded mode = mode.quotient p.negative p.numerator p.denominator := by
  cases mode <;> rfl

namespace Rounding

variable (mode : Rounding) (negative : Bool) {numerator denominator n d : Nat}

theorem quotient_bounds (numerator denominator : Nat) :
    numerator / denominator ≤ mode.quotient negative numerator denominator ∧
      mode.quotient negative numerator denominator ≤ numerator / denominator + 1 := by
  cases mode with
  | towardZero => exact ⟨Nat.le_refl _, Nat.le_succ _⟩
  | down | up | halfAway =>
      unfold quotient
      dsimp only
      split <;> omega

theorem quotient_congr (whole : numerator / denominator = n / d)
    (rest : numerator % denominator = 0 ↔ n % d = 0)
    (half : denominator ≤ 2 * (numerator % denominator) ↔ d ≤ 2 * (n % d)) :
    mode.quotient negative numerator denominator = mode.quotient negative n d := by
  have sameRest : (numerator % denominator == 0) = (n % d == 0) := by
    rw [Bool.eq_iff_iff, beq_iff_eq, beq_iff_eq, rest]
  unfold quotient
  simp only [whole, sameRest, half]

/-- Quotients that compare alike with the halves around one of them are rounded alike. -/
theorem quotient_eq_of_compare (positive : 0 < d)
    (same : ∀ halves ≤ 2 * (n / d) + 2,
      compare (2 * numerator) (halves * denominator) = compare (2 * n) (halves * d)) :
    mode.quotient negative numerator denominator = mode.quotient negative n d := by
  have division := Nat.div_add_mod n d
  have below := Nat.mod_lt n positive
  have less {halves : Nat} (h : halves ≤ 2 * (n / d) + 2) :
      2 * numerator < halves * denominator ↔ 2 * n < halves * d := by
    rw [← Nat.compare_eq_lt, same halves h, Nat.compare_eq_lt]
  have equal {halves : Nat} (h : halves ≤ 2 * (n / d) + 2) :
      2 * numerator = halves * denominator ↔ 2 * n = halves * d := by
    rw [← Nat.compare_eq_eq, same halves h, Nat.compare_eq_eq]
  have exact := equal (Nat.le_add_right _ 2)
  have whole := less (Nat.le_add_right _ 2)
  have half := less (show 2 * (n / d) + 1 ≤ _ from Nat.le_succ _)
  have next := less (Nat.le_refl _)
  generalize wholePart : n / d = q at *
  generalize leftOver : n % d = r at *
  simp only [Nat.add_mul, Nat.one_mul, Nat.mul_assoc] at exact whole half next
  rw [Nat.mul_comm] at division
  have quotient : numerator / denominator = q := by
    apply Nat.div_eq_of_lt_le
    · omega
    · rw [Nat.succ_mul]
      omega
  have rest := Nat.div_add_mod numerator denominator
  rw [quotient, Nat.mul_comm] at rest
  apply quotient_congr
  · rw [quotient, wholePart]
  · rw [leftOver]
    omega
  · rw [leftOver]
    omega

theorem quotient_mul_right (n d : Nat) {factor : Nat} (positive : 0 < factor) :
    mode.quotient negative (n * factor) (d * factor) = mode.quotient negative n d := by
  have rest : n * factor % (d * factor) = n % d * factor := Nat.mul_mod_mul_right factor n d
  apply quotient_congr
  · exact Nat.mul_div_mul_right n d positive
  · rw [rest, Nat.mul_eq_zero, or_iff_left (Nat.ne_of_gt positive)]
  · rw [rest, ← Nat.mul_assoc, Nat.mul_le_mul_right_iff positive]

theorem quotient_le_quotient_left (h : n ≤ numerator) :
    mode.quotient negative n d ≤ mode.quotient negative numerator d := by
  rcases Nat.lt_or_eq_of_le (Nat.div_le_div_right (c := d) h) with less | same
  · calc mode.quotient negative n d
        ≤ n / d + 1 := (quotient_bounds mode negative n d).2
      _ ≤ numerator / d := less
      _ ≤ mode.quotient negative numerator d := (quotient_bounds mode negative numerator d).1
  · have rests : n % d ≤ numerator % d := by
      have first := Nat.div_add_mod n d
      have second := Nat.div_add_mod numerator d
      rw [same] at first
      omega
    unfold quotient
    rw [same]
    cases mode with
    | towardZero => exact Nat.le_refl _
    | halfAway =>
        dsimp only
        split <;> split <;> omega
    | down | up =>
        cases negative <;> simp only [Bool.false_and, Bool.true_and, Bool.not_false, Bool.not_true,
          Bool.false_eq_true, if_false, Nat.le_refl, Bool.not_eq_eq_eq_not, Bool.not_true,
          beq_eq_false_iff_ne, ne_eq]
        all_goals split <;> split <;> omega

theorem quotient_mono (positive : 0 < denominator) (other : 0 < d)
    (h : n * denominator ≤ numerator * d) :
    mode.quotient negative n d ≤ mode.quotient negative numerator denominator := by
  rw [← quotient_mul_right mode negative n d positive,
    ← quotient_mul_right mode negative numerator denominator other, Nat.mul_comm denominator]
  exact quotient_le_quotient_left mode negative h

end Rounding

namespace Parts

variable (mode : Rounding) (negative : Bool) {denominator : Nat}

/-- The number nearest to a quotient of a short number is rounded like the quotient. -/
theorem rounded_ofQuotient {whole : Nat} (short : whole < 10 ^ 15) (positive : 0 < denominator) :
    (ofQuotient negative whole denominator).rounded mode =
      mode.quotient negative whole denominator := by
  rw [rounded_eq_quotient]
  apply mode.quotient_eq_of_compare negative positive
  intro halves few
  have part := Nat.div_le_self whole denominator
  apply compare_halves negative positive (isShort_of_lt (by omega))
  generalize halves * denominator = product
  omega

theorem rounded_ofQuotient_mono {numerator n d : Nat} (positive : 0 < denominator) (other : 0 < d)
    (h : n * denominator ≤ numerator * d) :
    (ofQuotient negative n d).rounded mode ≤
      (ofQuotient negative numerator denominator).rounded mode := by
  rw [rounded_eq_quotient, rounded_eq_quotient]
  exact mode.quotient_mono negative (Parts.denominator_pos _) (Parts.denominator_pos _)
    (ofQuotient_mono negative other positive h)

end Parts

theorem round_toFloat (mode : Rounding) {p : Parts} (canonical : p.Canonical) (finite : p.IsFinite)
    (bounded : (p.rounded mode).log2 < 1023) :
    round mode p.toFloat =
      (Parts.ofWhole p.negative (nearestNat (p.rounded mode))).toFloat := by
  have same := Parts.parts_toFloat canonical finite
  have isFinite := isFinite_of_parts (x := p.toFloat) (same.symm ▸ finite)
  unfold round
  dsimp only
  rw [if_pos isFinite, same, ofNat_eq_toFloat]
  cases p.negative with
  | false => rfl
  | true =>
      rw [if_pos rfl, Parts.neg_toFloat (Parts.ofWhole_canonical false _)
        (Parts.ofWhole_finite false (log2_nearestNat_lt bounded))]
      rfl

end Spreadsheet.Binary64

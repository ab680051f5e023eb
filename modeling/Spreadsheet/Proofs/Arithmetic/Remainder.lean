import Spreadsheet.Proofs.Arithmetic

/-!
Remainders of integers. The division towards zero leaves a remainder with the sign of the number;
where the divisor has the other sign, it is added. The two numbers of that sum are on different
sides of zero, so it fits in 64 bits.

There is one division whose quotient does not fit, that of the least integer by -1. It is left to
floating-point arithmetic, although its remainder is zero. The main statement is that in all other
cases the remainder is an integer that differs from the number by a multiple of the divisor and lies
between zero and the divisor.
-/

set_option autoImplicit false

namespace Spreadsheet

namespace Number

def BelowDivisor (remainder divisor : Int) : Prop :=
  0 ≤ remainder ∧ remainder < divisor ∨ divisor < remainder ∧ remainder ≤ 0

theorem fmod_eq_of_belowDivisor {number divisor remainder : Int} (quotient : Int)
    (below : BelowDivisor remainder divisor)
    (whole : remainder + divisor * quotient = number) : number.fmod divisor = remainder := by
  rcases below with ⟨low, high⟩ | ⟨low, high⟩
  · exact ((Int.fdiv_fmod_unique (Int.lt_of_le_of_lt low high)).2 ⟨whole, low, high⟩).2
  · exact ((Int.fdiv_fmod_unique' (Int.lt_of_lt_of_le low high)).2 ⟨whole, low, high⟩).2

variable {n d : Int64}

/-- The division towards zero leaves something, and its sign is not that of the divisor. -/
def signsDiffer (n d : Int64) : Bool :=
  n % d != 0 && (decide (n % d < 0) != decide (d < 0))

/-- The remainder with the sign of the divisor, as 64-bit arithmetic finds it. -/
def correctedRemainder (n d : Int64) : Int64 :=
  if signsDiffer n d then n % d + d else n % d

theorem signsDiffer_iff :
    signsDiffer n d = true ↔ (n % d).toInt ≠ 0 ∧ ¬ ((n % d).toInt < 0 ↔ d.toInt < 0) := by
  rw [signsDiffer, Bool.and_eq_true, bne_iff_ne, bne_iff_ne, ne_eq, ne_eq (decide _),
    decide_eq_decide, ← Int64.toInt_inj, Int64.lt_iff_toInt_lt, Int64.lt_iff_toInt_lt,
    Int64.toInt_zero]

theorem toInt_correction (differ : signsDiffer n d = true) :
    (n % d + d).toInt = (n % d).toInt + d.toInt := by
  obtain ⟨-, apart⟩ := signsDiffer_iff.1 differ
  have remainderLow := (n % d).le_toInt
  have remainderHigh := (n % d).toInt_lt
  have low := d.le_toInt
  have high := d.toInt_lt
  rw [Int64.toInt_add]
  apply Int.bmod_eq_of_le
  all_goals omega

theorem belowDivisor_corrected (nonzero : d.toInt ≠ 0) :
    BelowDivisor (correctedRemainder n d).toInt d.toInt := by
  have small : (n.toInt.tmod d.toInt).natAbs < d.toInt.natAbs := by
    rw [Int.natAbs_tmod]
    exact Nat.mod_lt _ (Int.natAbs_pos.2 nonzero)
  rw [← Int64.toInt_mod] at small
  unfold correctedRemainder BelowDivisor
  split
  · rename_i differ
    have apart := signsDiffer_iff.1 differ
    rw [toInt_correction differ]
    omega
  · rename_i agree
    rw [signsDiffer_iff] at agree
    omega

theorem toInt_corrected (nonzero : d.toInt ≠ 0) :
    (correctedRemainder n d).toInt = n.toInt.fmod d.toInt := by
  have whole := Int.tmod_add_mul_tdiv n.toInt d.toInt
  rw [← Int64.toInt_mod] at whole
  have below := belowDivisor_corrected (n := n) nonzero
  symm
  unfold correctedRemainder at below ⊢
  split at below
  · rename_i differ
    rw [if_pos differ]
    refine fmod_eq_of_belowDivisor (n.toInt.tdiv d.toInt - 1) below ?_
    rw [toInt_correction differ, Int.mul_sub, Int.mul_one]
    omega
  · rename_i agree
    rw [if_neg agree]
    exact fmod_eq_of_belowDivisor _ below whole

/-- Of the quotients by divisors that are not zero, only that of the least integer by -1 does not
fit. -/
theorem ofInt?_tdiv_eq_none_iff (nonzero : d.toInt ≠ 0) :
    ofInt? (n.toInt.tdiv d.toInt) = none ↔ n = Int64.minValue ∧ d = -1 := by
  rw [ofInt?_eq_none_iff]
  constructor
  · intro large
    have low := n.le_toInt
    have high := n.toInt_lt
    have size : (n.toInt.tdiv d.toInt).natAbs = n.toInt.natAbs / d.toInt.natAbs :=
      Int.natAbs_tdiv _ _
    have unit : d.toInt = 1 ∨ d.toInt = -1 := by
      by_cases larger : 2 ≤ d.toInt.natAbs
      · have halved : n.toInt.natAbs / d.toInt.natAbs ≤ n.toInt.natAbs / 2 :=
          Nat.div_le_div_left larger (by decide)
        omega
      · omega
    rcases unit with one | minusOne
    · rw [one, Int.tdiv_one] at large
      omega
    · rw [minusOne, Int.tdiv_neg, Int.tdiv_one] at large
      refine ⟨Int64.toInt_inj.1 ?_, Int64.toInt_inj.1 minusOne⟩
      rw [Int64.toInt_minValue]
      omega
  · rintro ⟨rfl, rfl⟩
    decide

theorem remainder_int (nonzero : d.toInt ≠ 0) (quotientFits : ¬ (n = Int64.minValue ∧ d = -1)) :
    remainder (.int n) (.int d) = .ok (.int (correctedRemainder n d)) := by
  have present := mt (ofInt?_tdiv_eq_none_iff nonzero).1 quotientFits
  obtain ⟨quotient, found⟩ := Option.ne_none_iff_exists'.1 present
  have notZero : ¬ isZero (.int d) = true := mt beq_iff_eq.1 nonzero
  have exact : exactRemainder? (.int n) (.int d) = some (.int (correctedRemainder n d)) := by
    rw [exactRemainder?, found, ← toInt_corrected nonzero]
    exact ofInt?_toInt _
  rw [remainder, if_neg notZero, exact]

theorem remainder_ne_int (r : Int64) :
    remainder (.int Int64.minValue) (.int (-1)) ≠ .ok (.int r) := by
  have absent : exactRemainder? (.int Int64.minValue) (.int (-1)) = none := by decide
  have notZero : ¬ isZero (.int (-1)) = true := by decide
  rw [remainder, if_neg notZero, absent]
  exact ofFloat_ne_int _ r

end Number

namespace Function

theorem callFunction_mod (context : Context) (n d : Int64) :
    callFunction context "MOD" [.int n, .int d] =
      (Number.remainder (.int n) (.int d)).map Value.number := by
  have found : Registry.standard.get? "MOD" = some ⟨"MOD", 2, some 2, remainder⟩ := rfl
  rw [callFunction_of_get? found rfl]
  exact Outcome.bind_number (Number.remainder (.int n) (.int d))

end Function

open Number

/-- The remainder of two integers is an integer with the sign of the divisor and smaller than it,
and the difference from the number is a multiple of the divisor. It is the one that 64-bit
arithmetic finds, and the one sum in it does not overflow. Only the remainder of the least integer
by -1 is no integer. -/
theorem remainder_floored {n d : Int64} (nonzero : d ≠ 0) (context : Context) :
    (¬ (n = Int64.minValue ∧ d = -1) → ∃ r : Int64,
        callFunction context "MOD" [.int n, .int d] = .ok (.int r) ∧
        d.toInt ∣ n.toInt - r.toInt ∧ BelowDivisor r.toInt d.toInt ∧
        r = correctedRemainder n d) ∧
      (signsDiffer n d = true → (n % d + d).toInt = (n % d).toInt + d.toInt) ∧
      (n = Int64.minValue ∧ d = -1 →
        ¬ ∃ r : Int64, callFunction context "MOD" [.int n, .int d] = .ok (.int r)) := by
  have divisor : d.toInt ≠ 0 := fun zero => nonzero (Int64.toInt_inj.1 zero)
  simp only [Function.callFunction_mod, Outcome.map_number_eq_int_iff]
  refine ⟨?_, toInt_correction, ?_⟩
  · intro quotientFits
    refine ⟨correctedRemainder n d, remainder_int divisor quotientFits, ?_,
      belowDivisor_corrected divisor, rfl⟩
    rw [toInt_corrected divisor]
    exact Int.dvd_self_sub_fmod
  · rintro ⟨rfl, rfl⟩ ⟨r, found⟩
    exact remainder_ne_int r found

/-- The least integer by the greatest one, where the divisor has to be added, and by -1. -/
theorem remainder_floored_endsOfRange :
    Int64.maxValue ≠ 0 ∧ ¬ (Int64.minValue = Int64.minValue ∧ Int64.maxValue = -1) ∧
      callFunction Context.bare "MOD" [.int Int64.minValue, .int Int64.maxValue] =
        .ok (.int 9223372036854775806) ∧
      Int64.maxValue.toInt ∣ Int64.minValue.toInt - 9223372036854775806 ∧
      BelowDivisor 9223372036854775806 Int64.maxValue.toInt ∧
      signsDiffer Int64.minValue Int64.maxValue = true ∧
      (Int64.minValue % Int64.maxValue + Int64.maxValue).toInt =
        (Int64.minValue % Int64.maxValue).toInt + Int64.maxValue.toInt ∧
      (-1 : Int64) ≠ 0 ∧
      ¬ ∃ r : Int64, callFunction Context.bare "MOD" [.int Int64.minValue, .int (-1)] =
        .ok (.int r) := by
  have nonzero : Int64.maxValue ≠ 0 := by decide
  have quotientFits : ¬ (Int64.minValue = Int64.minValue ∧ Int64.maxValue = -1) := by decide
  have differ : signsDiffer Int64.minValue Int64.maxValue = true := by decide
  have unitNonzero : (-1 : Int64) ≠ 0 := by decide
  obtain ⟨found, sum, -⟩ := remainder_floored (n := Int64.minValue) nonzero Context.bare
  obtain ⟨r, computed, divides, below, same⟩ := found quotientFits
  have value : correctedRemainder Int64.minValue Int64.maxValue = 9223372036854775806 := by decide
  rw [value] at same
  subst same
  exact ⟨nonzero, quotientFits, computed, divides, below, differ, sum differ, unitNonzero,
    (remainder_floored unitNonzero Context.bare).2.2 ⟨rfl, rfl⟩⟩

/-- There is an integer remainder of the least integer by -1, but it is not the result. -/
theorem remainder_of_least_by_minusOne :
    (-1 : Int64).toInt ∣ Int64.minValue.toInt - (0 : Int64).toInt ∧
      ¬ ∃ r : Int64, callFunction Context.bare "MOD" [.int Int64.minValue, .int (-1)] =
        .ok (.int r) := by
  refine ⟨by decide, ?_⟩
  rintro ⟨r, found⟩
  rw [Function.callFunction_mod, Outcome.map_number_eq_int_iff] at found
  exact remainder_ne_int r found

end Spreadsheet

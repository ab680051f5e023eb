import Spreadsheet.Function.Registry
import Spreadsheet.Proofs.Arithmetic
import Spreadsheet.Proofs.Arithmetic.Multiples
import Spreadsheet.Proofs.Decimal.Trimmed

/-!
Rounding integers to tens. An integer is converted and divided by a power of ten, which is exact up
to the twenty-second; the quotient is trimmed to fifteen digits, rounded and multiplied again. The
power of ten and the product are exact, the quotient is the nearest number to the exact one.

The main statements are that an integer of at most fifteen digits is rounded to the right multiple,
and that a longer one is rounded to zero, where it should be, up to a limit only: beyond it trimming
carries the quotient to one or to a half. A result of more than fifteen digits is never an integer.
-/

set_option autoImplicit false

namespace Spreadsheet

open Binary64 (Rounding)

namespace Binary64

open Parts

section PowersOfTen

theorem powerBySquaring_zero (base result : Float) : powerBySquaring base result 0 = result := by
  rw [powerBySquaring, if_pos rfl]

theorem mul_pow_ten {first second : Nat} (h : first + second ≤ 22) :
    (ofWhole false (10 ^ first)).toFloat * (ofWhole false (10 ^ second)).toFloat =
      (ofWhole false (10 ^ (first + second))).toFloat := by
  have product := mul_toFloat false (isShort_pow_ten (show first ≤ 22 by omega))
    (isShort_pow_ten (show second ≤ 22 by omega)) (Nat.ne_of_gt (Nat.pow_pos (by decide)))
    (Nat.lt_trans (log2_pow_ten_lt (by omega)) (by decide))
    (Nat.lt_trans (log2_pow_ten_lt (by omega)) (by decide))
  rwa [← Nat.pow_add, nearestNat_of_isShort (isShort_pow_ten h)] at product

theorem powerBySquaring_pow_ten (exponent : Nat) {first second : Nat}
    (h : second + first * exponent ≤ 22) :
    powerBySquaring (ofWhole false (10 ^ first)).toFloat (ofWhole false (10 ^ second)).toFloat
        exponent = (ofWhole false (10 ^ (second + first * exponent))).toFloat := by
  induction exponent using Nat.strongRecOn generalizing first second with
  | ind exponent ih =>
      by_cases zero : exponent = 0
      · rw [zero, powerBySquaring_zero]
        rfl
      have halves :
          first * exponent = first * (exponent % 2) + (first + first) * (exponent / 2) := by
        rw [← Nat.mul_two, Nat.mul_assoc, ← Nat.mul_add, Nat.add_comm, Nat.div_add_mod]
      have atLeast := Nat.mul_le_mul_left first (Nat.one_le_iff_ne_zero.2 zero)
      have last : (if exponent % 2 = 1 then
          (ofWhole false (10 ^ second)).toFloat * (ofWhole false (10 ^ first)).toFloat
        else (ofWhole false (10 ^ second)).toFloat) =
          (ofWhole false (10 ^ (second + first * (exponent % 2)))).toFloat := by
        rcases Nat.mod_two_eq_zero_or_one exponent with even | odd
        · rw [even, if_neg (by decide)]
          rfl
        · rw [odd, if_pos rfl, Nat.mul_one, mul_pow_ten (by omega)]
      rw [powerBySquaring, if_neg zero, last, halves, ← Nat.add_assoc]
      by_cases one : exponent / 2 = 0
      · rw [one, powerBySquaring_zero]
        rfl
      · have square := Nat.mul_le_mul_left (first + first) (Nat.one_le_iff_ne_zero.2 one)
        rw [mul_pow_ten (by omega)]
        exact ih (exponent / 2) (by omega) (by omega)

theorem powerOfTen_eq {exponent : Nat} (h : exponent ≤ 22) :
    powerOfTen exponent = (ofWhole false (10 ^ exponent)).toFloat := by
  have ten : (10.0 : Float) = (ofWhole false (10 ^ 1)).toFloat := rfl
  have one : (1.0 : Float) = (ofWhole false (10 ^ 0)).toFloat := rfl
  rw [powerOfTen, ten, one, powerBySquaring_pow_ten exponent (by omega), Nat.zero_add, Nat.one_mul]

end PowersOfTen

end Binary64

namespace Number

open Binary64

theorem wholeOrFloat_ofInt (n : Int64) :
    wholeOrFloat (Float.ofInt n.toInt) =
      .ok (if n.toInt.natAbs < 10 ^ 15 then .int n else .float (Float.ofInt n.toInt)) := by
  have bounded := log2_toInt_lt n
  have finite := (ordinary_ofInt bounded).finite
  unfold wholeOrFloat
  rw [shortWhole?_ofInt bounded]
  by_cases short : n.toInt.natAbs < 10 ^ 15
  · rw [if_pos short, if_pos short, Option.bind_some, ofInt?_toInt]
  · rw [if_neg short, if_neg short, Option.bind_none]
    dsimp only
    unfold ofFloat
    rw [isNaN_of_parts finite, isInf_of_parts finite, if_neg Bool.false_ne_true,
      if_neg Bool.false_ne_true]

theorem shortWhole?_of_wholeOrFloat {x : Float} {n : Int64} (h : wholeOrFloat x = .ok (.int n)) :
    shortWhole? x = some n.toInt := by
  unfold wholeOrFloat at h
  split at h
  · rename_i number found
    cases h
    obtain ⟨whole, short, fits⟩ := Option.bind_eq_some_iff.1 found
    obtain ⟨m, same, value⟩ := (ofInt?_eq_some_iff _ _).1 fits
    cases same
    rw [short, value]
  · exact absurd h (ofFloat_ne_int x n)

theorem roundScaled_left (mode : Rounding) (x : Float) {digits : Int} (h : digits < 0) :
    roundScaled mode x digits =
      wholeOrFloat (round mode (Decimal.trimmed 15 (x / powerOfTen (-digits).toNat)) *
        powerOfTen (-digits).toNat + 0.0) := by
  unfold roundScaled
  dsimp only
  rw [if_neg (Int.not_le.2 h), if_pos (Int.le_of_lt h)]

/-- An integer is divided by the scale and trimmed, and the multiple that the quotient is rounded to
is converted. -/
theorem roundScaled_ofInt (mode : Rounding) {n : Int} {zeros : Nat} (positive : 0 < zeros)
    (few : zeros ≤ 22) (bounded : n.natAbs.log2 < 1023) {quotient : Parts}
    (canonical : quotient.Canonical) (finite : quotient.IsFinite)
    (sign : quotient.negative = decide (n < 0))
    (trimmed : Decimal.trimmed 15 (Parts.ofQuotient (decide (n < 0)) (nearestNat n.natAbs)
      (10 ^ zeros)).toFloat = quotient.toFloat)
    (short : quotient.rounded mode < 2 ^ 53) :
    roundScaled mode (Float.ofInt n) (-zeros) =
      wholeOrFloat (Float.ofInt (withSignOf n (quotient.rounded mode * 10 ^ zeros))) := by
  have unit : 10 ^ zeros ≠ 0 := Nat.ne_of_gt (Nat.pow_pos (by decide))
  have scaleShort := isShort_pow_ten few
  have scaleDigits := log2_pow_ten_lt (show zeros ≤ 300 by omega)
  have digits := log2_nearestNat_lt bounded
  have roundedShort := isShort_of_lt short
  have atMost : quotient.rounded mode ≤ 10 ^ 16 := by omega
  have roundedDigits := log2_lt_of_le_pow_ten atMost (by decide)
  have product := Nat.mul_le_mul_right (10 ^ zeros) atMost
  rw [← Nat.pow_add] at product
  have productDigits := log2_lt_of_le_pow_ten product (by omega)
  have given : Parts.ofInt (nearest n) =
      Parts.ofWhole (decide (n < 0)) (nearestNat n.natAbs) := by
    rw [Parts.ofInt, natAbs_nearest, decide_eq_decide.2 nearest_neg_iff]
  have scale : (-(-(zeros : Int))).toNat = zeros := by omega
  rw [roundScaled_left mode _ (by omega), scale, powerOfTen_eq few, ofInt_eq_toFloat bounded, given,
    div_toFloat _ (isShort_nearestNat _) scaleShort unit digits scaleDigits, trimmed,
    round_toFloat mode canonical finite roundedDigits, nearestNat_of_isShort roundedShort,
    mul_toFloat _ roundedShort scaleShort unit (by omega) (by omega),
    toFloat_add_zero _ productDigits, sign, withSignOf]
  simp only [decide_eq_true_eq]

theorem roundScaled_of_short (mode : Rounding) {n : Int} {zeros : Nat} (positive : 0 < zeros)
    (few : zeros ≤ 22) (short : n.natAbs < 10 ^ 15) :
    roundScaled mode (Float.ofInt n) (-zeros) =
      wholeOrFloat (Float.ofInt (mode.multiple (10 ^ zeros) n)) := by
  have unit : 0 < 10 ^ zeros := Nat.pow_pos (by decide)
  have digits : n.natAbs.log2 < 1023 := log2_lt_of_le_pow_ten (Nat.le_of_lt short) (by decide)
  have exact := nearestNat_of_isShort (isShort_of_lt (show n.natAbs < 2 ^ 53 by omega))
  have rounded := Parts.rounded_ofQuotient mode (decide (n < 0)) short unit
  have below := (mode.quotient_bounds (decide (n < 0)) n.natAbs (10 ^ zeros)).2
  have part := Nat.div_le_self n.natAbs (10 ^ zeros)
  have computed := roundScaled_ofInt mode positive few digits
    (Parts.ofQuotient_canonical (decide (n < 0)) n.natAbs unit
      (log2_pow_ten_lt (by omega)))
    (Parts.ofQuotient_finite _ unit digits) rfl
    (by rw [exact, Decimal.trimmed_ofQuotient _ short positive (by omega)]) (by omega)
  rw [rounded] at computed
  exact computed

section Trimming

open Decimal (trimmedQuotient)

/-- The largest integers that are still rounded to zero, with more than fifteen digits to the left
of the point. Larger ones are carried to a whole unit when their quotient is trimmed. -/
def zeroLimit (mode : Rounding) (zeros : Nat) : Nat :=
  match mode, zeros with
  | .halfAway, 16 => 4999999999999994
  | .halfAway, 17 => 49999999999999947
  | .halfAway, _ => 499999999999999455
  | _, 16 => 9999999999999994
  | _, 17 => 99999999999999944
  | _, _ => 999999999999999552

def trimmedUnits (mode : Rounding) (negative : Bool) (whole zeros : Nat) : Nat :=
  (trimmedQuotient negative (nearestNat whole) (10 ^ zeros)).rounded mode

variable (mode : Rounding) (negative : Bool) {zeros : Nat}

theorem nearestNat_le_pow_ten (few : zeros ≤ 22) {whole : Nat} (h : whole ≤ 10 ^ zeros) :
    nearestNat whole ≤ 10 ^ zeros :=
  nearestNat_of_isShort (isShort_pow_ten few) ▸ nearestNat_mono h

theorem trimmedUnits_mono (few : zeros ≤ 22) {smaller larger : Nat} (nonzero : smaller ≠ 0)
    (ordered : smaller ≤ larger) (h : larger ≤ 10 ^ zeros) :
    trimmedUnits mode negative smaller zeros ≤ trimmedUnits mode negative larger zeros :=
  Decimal.rounded_trimmedQuotient_mono negative mode (nearestNat_ne_zero nonzero)
    (nearestNat_mono ordered) (nearestNat_le_pow_ten few h)

theorem trimmedUnits_zeroLimit (low : 16 ≤ zeros) (high : zeros ≤ 18)
    (towardZero : mode.quotient negative 1 (10 ^ zeros) = 0) :
    trimmedUnits mode negative (zeroLimit mode zeros) zeros = 0 ∧
      trimmedUnits mode negative (zeroLimit mode zeros + 1) zeros = 1 ∧
      trimmedUnits mode negative (10 ^ zeros) zeros = 1 := by
  have all : ∀ mode ∈ [Rounding.down, .up, .towardZero, .halfAway], ∀ negative : Bool,
      ∀ zeros ∈ [16, 17, 18], mode.quotient negative 1 (10 ^ zeros) = 0 →
        trimmedUnits mode negative (zeroLimit mode zeros) zeros = 0 ∧
          trimmedUnits mode negative (zeroLimit mode zeros + 1) zeros = 1 ∧
          trimmedUnits mode negative (10 ^ zeros) zeros = 1 := by
    decide +kernel
  refine all mode ?_ negative zeros ?_ towardZero
  · cases mode <;> decide
  · rw [List.mem_cons, List.mem_cons, List.mem_singleton]
    omega

theorem zeroLimit_lt (low : 16 ≤ zeros) (high : zeros ≤ 18) :
    0 < zeroLimit mode zeros ∧ zeroLimit mode zeros < 10 ^ zeros := by
  have cases : zeros = 16 ∨ zeros = 17 ∨ zeros = 18 := by omega
  rcases cases with rfl | rfl | rfl <;> cases mode <;> decide

/-- An integer below one unit that should be rounded to zero is rounded to zero up to the limit and
to one unit from there on. -/
theorem trimmedUnits_eq (low : 16 ≤ zeros) (high : zeros ≤ 18) {whole : Nat} (nonzero : whole ≠ 0)
    (h : whole ≤ 10 ^ zeros) (towardZero : mode.quotient negative whole (10 ^ zeros) = 0) :
    trimmedUnits mode negative whole zeros = if whole ≤ zeroLimit mode zeros then 0 else 1 := by
  have unit : 0 < 10 ^ zeros := Nat.pow_pos (by decide)
  have few : zeros ≤ 22 := by omega
  have least := mode.quotient_mono negative unit unit
    (Nat.mul_le_mul_right (10 ^ zeros) (Nat.one_le_iff_ne_zero.2 nonzero))
  obtain ⟨atLimit, next, last⟩ := trimmedUnits_zeroLimit mode negative low high (by omega)
  obtain ⟨limitPositive, limitBelow⟩ := zeroLimit_lt mode low high
  split
  · rename_i within
    have := trimmedUnits_mono mode negative few nonzero within (Nat.le_of_lt limitBelow)
    omega
  · rename_i beyond
    have above : zeroLimit mode zeros + 1 ≤ whole := Nat.lt_of_not_le beyond
    have := trimmedUnits_mono mode negative few (by omega) above h
    have := trimmedUnits_mono mode negative few nonzero h (Nat.le_refl _)
    omega

theorem roundScaled_of_long {n : Int} (low : 16 ≤ zeros) (high : zeros ≤ 18) (nonzero : n ≠ 0)
    (h : n.natAbs ≤ 10 ^ zeros) (bounded : n.natAbs.log2 < 1023)
    (towardZero : mode.quotient (decide (n < 0)) n.natAbs (10 ^ zeros) = 0) :
    roundScaled mode (Float.ofInt n) (-zeros) =
      wholeOrFloat (Float.ofInt
        (withSignOf n ((if n.natAbs ≤ zeroLimit mode zeros then 0 else 1) * 10 ^ zeros))) := by
  have some : n.natAbs ≠ 0 := by omega
  have few : zeros ≤ 22 := by omega
  have units := trimmedUnits_eq mode (decide (n < 0)) low high some h towardZero
  have atMostOne : trimmedUnits mode (decide (n < 0)) n.natAbs zeros < 2 ^ 53 := by
    rw [units]
    split <;> decide
  obtain ⟨trimmed, canonical, finite⟩ := Decimal.trimmed_of_le (decide (n < 0))
    (nearestNat_ne_zero some) (nearestNat_le_pow_ten few h) (by omega)
  rw [← units]
  exact roundScaled_ofInt mode (by omega) few bounded canonical finite rfl trimmed atMostOne

end Trimming

theorem roundTo_left (mode : Rounding) (n : Int64) {digits : Int} (h : digits < 0) :
    (Number.int n).roundTo mode digits = roundScaled mode (Float.ofInt n.toInt) digits :=
  if_neg (Int.not_le.2 h)

variable {mode : Rounding} {n m : Int64} {zeros : Nat}

/-- An integer of at most fifteen digits is rounded exactly; the result is an integer if it has at
most fifteen digits as well. -/
theorem roundTo_of_short (positive : 0 < zeros) (few : zeros ≤ 18)
    (rounded : IsRounded mode ((10 ^ zeros : Nat) : Int) n.toInt m.toInt)
    (short : n.toInt.natAbs < 10 ^ 15) :
    (Number.int n).roundTo mode (-zeros) =
      .ok (if m.toInt.natAbs < 10 ^ 15 then .int m else .float (Float.ofInt m.toInt)) := by
  have multiple := (isRounded_iff (Nat.pow_pos (by decide))).1 rounded
  rw [roundTo_left mode n (by omega), roundScaled_of_short mode positive (by omega) short,
    ← multiple, wholeOrFloat_ofInt]

/-- A longer integer is rounded to zero, or to a whole unit. -/
theorem roundTo_of_long (positive : 0 < zeros) (few : zeros ≤ 18)
    (rounded : IsRounded mode ((10 ^ zeros : Nat) : Int) n.toInt m.toInt)
    (long : 10 ^ 15 ≤ n.toInt.natAbs) (shortResult : m.toInt.natAbs < 10 ^ 15) :
    (Number.int n).roundTo mode (-zeros) = .ok (.int m) ↔
      n.toInt.natAbs ≤ zeroLimit mode zeros := by
  have multiple := (isRounded_iff (Nat.pow_pos (by decide))).1 rounded
  have magnitude := congrArg Int.natAbs multiple
  rw [Rounding.multiple, natAbs_withSignOf] at magnitude
  obtain ⟨none, large, below⟩ := quotient_eq_zero_of_long (decide (n.toInt < 0)) long
    (magnitude ▸ shortResult)
  have zero : m.toInt = 0 := by
    rw [none, Nat.zero_mul] at magnitude
    exact Int.natAbs_eq_zero.1 magnitude
  rw [roundTo_left mode n (by omega), roundScaled_of_long mode large few (by omega)
    (Nat.le_of_lt below) (log2_toInt_lt n) none]
  by_cases within : n.toInt.natAbs ≤ zeroLimit mode zeros
  · have noUnits : withSignOf n.toInt (0 * 10 ^ zeros) = m.toInt := by
      rw [zero, Nat.zero_mul, ← Int.natAbs_eq_zero, natAbs_withSignOf]
    rw [if_pos within, noUnits, wholeOrFloat_ofInt, if_pos shortResult]
    exact iff_of_true rfl within
  · have unitLarge := Nat.pow_le_pow_right (show 0 < 10 by decide) large
    have size := natAbs_withSignOf n.toInt (1 * 10 ^ zeros)
    have digits := Nat.lt_trans (log2_pow_ten_lt (show zeros ≤ 300 by omega)) (Nat.lt_succ_self _)
    rw [if_neg within]
    refine iff_of_false (fun found => ?_) within
    have shown := shortWhole?_of_wholeOrFloat found
    rw [Nat.one_mul] at size shown
    rw [shortWhole?_ofInt (size.symm ▸ digits), size, if_neg (by omega)] at shown
    cases shown

theorem natAbs_lt_of_roundTo {digits : Int} (left : digits < 0)
    (found : (Number.int n).roundTo mode digits = .ok (.int m)) : m.toInt.natAbs < 10 ^ 15 := by
  rw [roundTo_left mode n left, roundScaled_left mode _ left] at found
  exact natAbs_lt_of_shortWhole? (shortWhole?_of_wholeOrFloat found)

theorem roundTo_eq_int_iff (positive : 0 < zeros) (few : zeros ≤ 18)
    (rounded : IsRounded mode ((10 ^ zeros : Nat) : Int) n.toInt m.toInt) :
    (Number.int n).roundTo mode (-zeros) = .ok (.int m) ↔
      m.toInt.natAbs < 10 ^ 15 ∧
        (n.toInt.natAbs < 10 ^ 15 ∨ n.toInt.natAbs ≤ zeroLimit mode zeros) := by
  by_cases shortResult : m.toInt.natAbs < 10 ^ 15
  · by_cases short : n.toInt.natAbs < 10 ^ 15
    · rw [roundTo_of_short positive few rounded short, if_pos shortResult]
      exact iff_of_true rfl ⟨shortResult, Or.inl short⟩
    · rw [roundTo_of_long positive few rounded (Nat.not_lt.1 short) shortResult]
      exact ⟨fun within => ⟨shortResult, Or.inr within⟩, fun h => h.2.resolve_left short⟩
  · exact iff_of_false (fun found => shortResult (natAbs_lt_of_roundTo (by omega) found))
      (fun h => shortResult h.1)

end Number

theorem callFunction_rounding {name : String} {mode : Rounding}
    (function : (name, mode) ∈ [("FLOOR", Rounding.down), ("CEIL", .up), ("ROUND", .halfAway)])
    {d : Int64} (limited : d.toInt.natAbs ≤ 308) (n : Int64) (context : Context) :
    callFunction context name [.int n, .int d] =
      ((Number.int n).roundTo mode d.toInt).map Value.number := by
  have found : Registry.standard.get? name = some ⟨name, 1, some 2, Function.rounding mode⟩ := by
    simp only [List.mem_cons, Prod.mk.injEq, List.not_mem_nil, or_false] at function
    rcases function with ⟨rfl, rfl⟩ | ⟨rfl, rfl⟩ | ⟨rfl, rfl⟩ <;> rfl
  have digits : Function.digitCount [.int n, .int d] 1 = .ok d.toInt :=
    Function.digitCount_int rfl limited
  rw [callFunction_of_get? found rfl]
  change (do
    let digits ← Function.digitCount [.int n, .int d] 1
    return Value.number (← (Number.int n).roundTo mode digits)) = _
  rw [digits, Outcome.ok_bind]
  exact Outcome.bind_number _

/-- An integer that is rounded to tens, up to the eighteenth digit. The result is the right multiple,
as an integer, exactly if this has at most fifteen digits and the integer itself has no more or is
not beyond the limit. An integer of at most fifteen digits is rounded to the right multiple in any
case, but one of sixteen digits is a floating-point number. -/
theorem rounding_to_tens {name : String} {mode : Rounding}
    (function : (name, mode) ∈ [("FLOOR", Rounding.down), ("CEIL", .up), ("ROUND", .halfAway)])
    {i d m : Int64} (positive : 1 ≤ d.toInt) (limited : d.toInt ≤ 18)
    (rounded : IsRounded mode (10 ^ d.toInt.toNat) i.toInt m.toInt) (context : Context) :
    (callFunction context name [.int i, .int (-d)] = .ok (.int m) ↔
        m.toInt.natAbs < 10 ^ 15 ∧
          (i.toInt.natAbs < 10 ^ 15 ∨ i.toInt.natAbs ≤ Number.zeroLimit mode d.toInt.toNat)) ∧
      (i.toInt.natAbs < 10 ^ 15 → callFunction context name [.int i, .int (-d)] = .ok (.number
        (if m.toInt.natAbs < 10 ^ 15 then .int m else .float (Float.ofInt m.toInt)))) := by
  obtain ⟨zeros, digits⟩ : ∃ zeros : Nat, d.toInt = zeros := ⟨d.toInt.toNat, by omega⟩
  have opposite : (-d).toInt = -(zeros : Int) := by
    rw [Int64.toInt_neg, digits]
    apply Int.bmod_eq_of_le
    all_goals omega
  have called := callFunction_rounding function (show (-d).toInt.natAbs ≤ 308 by omega) i context
  have natural : d.toInt.toNat = zeros := by omega
  have unit : (10 : Int) ^ zeros = (10 ^ zeros : Nat) := (Int.natCast_pow 10 zeros).symm
  rw [natural, unit] at rounded
  rw [called, opposite, Outcome.map_number_eq_int_iff, natural]
  refine ⟨Number.roundTo_eq_int_iff (by omega) (by omega) rounded, fun short => ?_⟩
  rw [Number.roundTo_of_short (by omega) (by omega) rounded short]
  rfl

/-- A half is rounded away from zero, and the largest integer that is rounded down to zero. -/
theorem rounding_to_tens_halfAndLimit :
    IsRounded .halfAway 100 (-1250) (-1300) ∧
      callFunction Context.bare "ROUND" [.int (-1250), .int (-2)] = .ok (.int (-1300)) ∧
      IsRounded .down (10 ^ 16) 9999999999999994 0 ∧
      callFunction Context.bare "FLOOR" [.int 9999999999999994, .int (-16)] = .ok (.int 0) := by
  have nearest : IsRounded .halfAway 100 (-1250) (-1300) := by
    refine ⟨by decide, fun k divides => ?_⟩
    omega
  have greatest : IsRounded .down (10 ^ 16) 9999999999999994 0 := by
    refine ⟨by decide, by decide, fun k divides below => ?_⟩
    omega
  have half := rounding_to_tens (i := -1250) (d := 2) (m := -1300)
    (List.mem_cons_of_mem _ (List.mem_cons_of_mem _ List.mem_cons_self)) (by decide) (by decide)
    nearest Context.bare
  have limit := rounding_to_tens (i := 9999999999999994) (d := 16) (m := 0) List.mem_cons_self
    (by decide) (by decide) greatest Context.bare
  exact ⟨nearest, half.1.2 (by decide), greatest, limit.1.2 (by decide)⟩

/-- An integer of sixteen digits is trimmed before it is rounded, and so rounded down to a multiple
above it. -/
theorem rounding_to_tens_carried :
    IsRounded .down 10 1999999999999999 1999999999999990 ∧
      callFunction Context.bare "FLOOR" [.int 1999999999999999, .int (-1)] =
        .ok (.number (.float 2000000000000000.0)) := by
  have greatest : IsRounded .down 10 1999999999999999 1999999999999990 := by
    refine ⟨by decide, by decide, fun k divides below => ?_⟩
    omega
  refine ⟨greatest, ?_⟩
  rw [callFunction_rounding List.mem_cons_self (by decide), Number.roundTo_left _ _ (by decide),
    Number.roundScaled_left _ _ (by decide), Binary64.powerOfTen_eq (by decide)]
  decide +kernel

end Spreadsheet

import Mathlib.Algebra.Ring.Int.Defs
import Spreadsheet.Proofs.Arithmetic

/-!
Powers of integers. A power of an integer is computed exactly as long as its exponent has at most 32
bits and it fits itself; everything else is left to floating-point arithmetic.

The main statement is that the results that are integers are the exact powers with such an exponent
and no others. A power of -1, 0 or 1 fits whatever its exponent is, so of these three the powers
with a larger exponent would be integers, but are not computed as such.
-/

set_option autoImplicit false

namespace Spreadsheet

namespace Number

theorem natAbs_pow_le_one {base : Int} (unit : base.natAbs ≤ 1) (exponent : Nat) :
    (base ^ exponent).natAbs ≤ 1 := by
  rw [Int.natAbs_pow, ← Nat.one_pow exponent]
  exact Nat.pow_le_pow_left unit exponent

theorem intPower?_eq_int_iff {base : Int} {exponent : Nat} {result : Int64} :
    intPower? base exponent = some (.int result) ↔ base ^ exponent = result.toInt := by
  constructor
  · intro found
    by_cases unit : base.natAbs ≤ 1
    · have small := natAbs_pow_le_one unit exponent
      have fits : (Int64.ofInt (base ^ exponent)).toInt = base ^ exponent :=
        Int64.toInt_ofInt_of_le (by omega) (by omega)
      cases found.symm.trans (intPower?_eq_some fits.symm)
      exact fits.symm
    · rw [intPower?, if_neg unit] at found
      split at found
      · exact ofInt?_eq_int_iff.1 found
      · cases found
  · exact intPower?_eq_some

theorem power_eq_int_iff_exactPower? {base exponent : Number} {result : Int64} :
    power base exponent = .ok (.int result) ↔ exactPower? base exponent = some (.int result) := by
  unfold power
  split
  · rename_i number found
    rw [found, Except.ok.injEq, Option.some.injEq]
  · rename_i absent
    refine iff_of_false ?_ (by rw [absent]; exact nofun)
    dsimp only
    split
    · exact nofun
    · exact ofFloat_ne_int _ _

end Number

/-- A power of an integer with a natural exponent is an integer when the exact power fits and the
exponent has at most 32 bits, and then it is the exact power. Both may be written as texts, and the
function gives what the operator gives. -/
theorem power_eq_int_iff {base exponent : Value} {b e : Int64}
    (readBase : base.toNumber = .ok (.int b)) (readExponent : exponent.toNumber = .ok (.int e))
    (natural : 0 ≤ e.toInt) (context : Context) (result : Int64) :
    (base.applyBinary .power exponent = .ok (.int result) ↔
      e.toInt < 4294967296 ∧ b.toInt ^ e.toInt.toNat = result.toInt) ∧
      callFunction context "POWER" [base, exponent] = base.applyBinary .power exponent := by
  constructor
  · rw [Value.applyBinary, Value.withNumbers_of_toNumber readBase readExponent,
      Outcome.map_number_eq_int_iff, Number.power_eq_int_iff_exactPower?, Number.exactPower?]
    split
    · rename_i limited
      rw [Number.intPower?_eq_int_iff, and_iff_right limited.2]
    · rename_i unlimited
      exact iff_of_false nofun fun exact => unlimited ⟨natural, exact.1⟩
  · have found : Registry.standard.get? "POWER" = some ⟨"POWER", 2, some 2, Function.power⟩ := rfl
    rw [callFunction_of_get? found rfl]
    rfl

/-- A power at the end of the range, with its base and its exponent written as texts. -/
theorem power_eq_int_iff_least :
    (Value.text " -2 ").toNumber = .ok (.int (-2)) ∧ (Value.text "63").toNumber = .ok (.int 63) ∧
      0 ≤ (63 : Int64).toInt ∧
      (Value.text " -2 ").applyBinary .power (.text "63") = .ok (.int Int64.minValue) ∧
      callFunction Context.bare "POWER" [.text " -2 ", .text "63"] =
        .ok (.int Int64.minValue) := by
  have readBase : (Value.text " -2 ").toNumber = .ok (.int (-2)) := by decide +kernel
  have readExponent : (Value.text "63").toNumber = .ok (.int 63) := by decide +kernel
  have natural : 0 ≤ (63 : Int64).toInt := by decide
  obtain ⟨isInt, sameFunction⟩ :=
    power_eq_int_iff readBase readExponent natural Context.bare Int64.minValue
  have result := isInt.2 (by decide)
  exact ⟨readBase, readExponent, natural, result, sameFunction.trans result⟩

/-- The power of one with the first exponent of more than 32 bits fits and is not computed as an
integer. -/
theorem power_of_one_not_int :
    0 ≤ (4294967296 : Int64).toInt ∧
      (1 : Int64).toInt ^ (4294967296 : Int64).toInt.toNat = (1 : Int64).toInt ∧
      (Value.int 1).applyBinary .power (.int 4294967296) ≠ .ok (.int 1) := by
  refine ⟨by decide, Int.one_pow, ?_⟩
  intro computed
  rw [Value.applyBinary, Value.withNumbers_of_toNumber rfl rfl, Outcome.map_number_eq_int_iff,
    Number.power_eq_int_iff_exactPower?] at computed
  have absent : Number.exactPower? (.int 1) (.int 4294967296) = none := by decide
  cases absent.symm.trans computed

end Spreadsheet

import Spreadsheet.Proofs.Arithmetic
import Spreadsheet.Proofs.Binary64.Integer

/-!
Bounds of random integers. The bounds are converted before an integer is drawn, so they are the
integers nearest to the given ones, as far as these are integers of 64 bits. Bounds of at most 53
binary digits stay as they are.

The main statement is that whatever is drawn between such bounds is an integer between them.
-/

set_option autoImplicit false

namespace Spreadsheet.Function

open Binary64 (nearest)

variable {low high : Int64}

theorem nearest_least : nearest (-9223372036854775808) = -9223372036854775808 := by
  decide +kernel

theorem nearest_greatest : nearest 9223372036854775808 = 9223372036854775808 := by
  decide +kernel

theorem nearest_bounds (n : Int64) :
    -9223372036854775808 ≤ nearest n.toInt ∧ nearest n.toInt ≤ 9223372036854775808 := by
  constructor
  · exact nearest_least ▸ Binary64.nearest_mono n.le_toInt
  · exact nearest_greatest ▸ Binary64.nearest_mono (Int.le_of_lt n.toInt_lt)

theorem toInt_drawnBound (n : Int64) : (drawnBound (Float.ofInt n.toInt)).toInt =
    min (nearest n.toInt) 9223372036854775807 := by
  have bounds := nearest_bounds n
  rw [drawnBound, Binary64.toInt_ofInt (Binary64.log2_toInt_lt n)]
  exact Int64.toInt_ofInt_of_le (by omega) (by omega)

theorem randomInteger_int (ordered : low.toInt ≤ high.toInt) (context : Context) :
    randomInteger context [.number (.int low), .number (.int high)] =
      .ok (.number (.int ((context.draws 0).integer (drawnBound (Float.ofInt low.toInt))
        (drawnBound (Float.ofInt high.toInt))))) := by
  have lowFits := Binary64.log2_toInt_lt low
  have highFits := Binary64.log2_toInt_lt high
  have nearestLow := nearest_bounds low
  have nearestHigh := nearest_bounds high
  have least : (-9223372036854775808.0 : Float) = Float.ofInt (-9223372036854775808) := by
    decide +kernel
  have greatest : (9223372036854775808.0 : Float) = Float.ofInt 9223372036854775808 := by
    decide +kernel
  have inOrder : ¬ Float.ofInt high.toInt < Float.ofInt low.toInt := by
    rw [Binary64.ofInt_lt_iff highFits lowFits]
    exact Int.not_lt.2 (Binary64.nearest_mono ordered)
  have aboveLeast : ¬ Float.ofInt low.toInt < -9223372036854775808.0 := by
    rw [least, Binary64.ofInt_lt_iff lowFits (by decide), nearest_least]
    omega
  have belowGreatest : ¬ 9223372036854775808.0 < Float.ofInt high.toInt := by
    rw [greatest, Binary64.ofInt_lt_iff (by decide) highFits, nearest_greatest]
    omega
  have lowFloat : (Value.number (.int low)).toFloat = .ok (Float.ofInt low.toInt) := rfl
  have highFloat : (Value.number (.int high)).toFloat = .ok (Float.ofInt high.toInt) := rfl
  simp only [randomInteger, argument, List.getElem?_cons_zero, List.getElem?_cons_succ, lowFloat,
    highFloat, bind, Except.bind, Binary64.round_ofInt _ lowFits, Binary64.round_ofInt _ highFits,
    inOrder, aboveLeast, belowGreatest, decide_false, Bool.or_self, if_false, Bool.false_eq_true]
  rfl

/-- A random integer between two integers of at most 53 binary digits is always found, and lies
between them. -/
theorem callFunction_randomInteger (lowSmall : low.toInt.natAbs ≤ 2 ^ 53)
    (highSmall : high.toInt.natAbs ≤ 2 ^ 53) (ordered : low.toInt ≤ high.toInt)
    (context : Context) :
    ∃ drawn : Int64, callFunction context "RAND_INT" [.number (.int low), .number (.int high)] =
      .ok (.number (.int drawn)) ∧ low.toInt ≤ drawn.toInt ∧ drawn.toInt ≤ high.toInt := by
  have found : Registry.standard.get? "RAND_INT" = some ⟨"RAND_INT", 2, some 2, randomInteger⟩ :=
    rfl
  have lowBound := toInt_drawnBound low
  have highBound := toInt_drawnBound high
  rw [Binary64.nearest_eq_self lowSmall] at lowBound
  rw [Binary64.nearest_eq_self highSmall] at highBound
  have bounds : drawnBound (Float.ofInt low.toInt) ≤ drawnBound (Float.ofInt high.toInt) := by
    rw [Int64.le_iff_toInt_le]
    omega
  have drawn := (context.draws 0).integer_mem bounds
  rw [Int64.le_iff_toInt_le, Int64.le_iff_toInt_le] at drawn
  have called := (callFunction_of_get? found rfl context).trans (randomInteger_int ordered context)
  exact ⟨_, called, by omega, by omega⟩

end Spreadsheet.Function

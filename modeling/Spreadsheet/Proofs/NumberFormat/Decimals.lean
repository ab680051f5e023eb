import Spreadsheet.Proofs.Binary64.Integer
import Spreadsheet.Proofs.Decimal
import Spreadsheet.Proofs.NumberFormat

/-!
Integers with decimals. An integer has no digit to lose when it is rounded, but to show digits
behind the point it is converted to a floating-point number. So it appears with the digits of the
nearest integer that has no surplus digits, and zeros behind the point.

The main statement is that these are its own digits exactly if it has no surplus digits itself.
-/

set_option autoImplicit false

namespace Spreadsheet

open Binary64 (nearest)

namespace PlainNumber

def withZeros (n : Int) {zeros : Nat} (someZero : zeros ≠ 0) : PlainNumber :=
  { ofInt n with
    fraction := some (List.replicate zeros '0')
    fraction_ne_nil := by
      rintro digits ⟨⟩
      exact mt (List.replicate_eq_nil_iff _).1 someZero
    isDigit_of_mem_fraction := by
      rintro digits ⟨⟩ c member
      rw [List.eq_of_mem_replicate member]
      rfl }

theorem text_withZeros (n : Int) {zeros : Nat} (someZero : zeros ≠ 0) :
    (withZeros n someZero).text = (ofInt n).text ++ '.' :: List.replicate zeros '0' := by
  change (ofInt n).sign ++ ((ofInt n).whole ++ '.' :: List.replicate zeros '0') =
    (ofInt n).sign ++ ((ofInt n).whole ++ []) ++ '.' :: List.replicate zeros '0'
  rw [List.append_nil, List.append_assoc]

theorem group_withZeros (separators : Separators) (n : Int) {zeros : Nat} (someZero : zeros ≠ 0) :
    separators.group (withZeros n someZero).text =
      separators.group (ofInt n).text ++ separators.decimal :: List.replicate zeros '0' := by
  rw [group_text, group_text, List.append_assoc]
  change (ofInt n).sign ++ (_ ++ separators.decimal :: List.replicate zeros '0') =
    (ofInt n).sign ++ (_ ++ [] ++ separators.decimal :: List.replicate zeros '0')
  rw [List.append_nil]
  rfl

theorem filter_isDigit_text (n : Int) :
    (ofInt n).text.filter Char.isDigit = Nat.toDigits 10 n.natAbs := by
  have digits : (Nat.toDigits 10 n.natAbs).filter Char.isDigit = Nat.toDigits 10 n.natAbs :=
    List.filter_eq_self.2 (ofInt n).isDigit_of_mem_whole
  rw [text_ofInt]
  split
  · exact (List.filter_cons_of_neg (by decide)).trans digits
  · exact digits

theorem minus_mem_text_iff (n : Int) : '-' ∈ (ofInt n).text ↔ n < 0 := by
  rw [text_ofInt]
  split
  · rename_i negative
    exact iff_of_true List.mem_cons_self negative
  · rename_i notNegative
    exact iff_of_false (fun member => nomatch (ofInt n).isDigit_of_mem_whole _ member) notNegative

theorem text_ofInt_inj {m n : Int} (same : (ofInt m).text = (ofInt n).text) : m = n := by
  have sign : m < 0 ↔ n < 0 := by
    rw [← minus_mem_text_iff, same, minus_mem_text_iff]
  have digits : Nat.toDigits 10 m.natAbs = Nat.toDigits 10 n.natAbs := by
    rw [← filter_isDigit_text, same, filter_isDigit_text]
  have magnitude : m.natAbs = n.natAbs := by
    rw [← Nat.ofDigitChars_toDigits (b := 10) (n := m.natAbs) (by decide) (by decide), digits,
      Nat.ofDigitChars_toDigits (by decide) (by decide)]
  omega

end PlainNumber

open PlainNumber

theorem fixedFloat_ofInt {n : Int} (bounded : n.natAbs.log2 < 1023) (places : Nat) :
    Decimal.fixedFloat places (Float.ofInt n) =
      String.ofList ((ofInt (nearest n)).text ++ '.' :: List.replicate places '0') := by
  rw [Decimal.fixedFloat, Binary64.parts_ofInt bounded, Binary64.Parts.numerator_nearest,
    Decimal.fixed_mul _ _ (Binary64.Parts.denominator_pos _), Binary64.Parts.negative_nearest,
    text_ofInt, Binary64.natAbs_nearest]
  by_cases negative : n < 0
  · rw [if_pos (decide_eq_true negative), if_pos (Binary64.nearest_neg_iff.2 negative)]
    rfl
  · rw [if_neg (by simp [negative]), if_neg (mt Binary64.nearest_neg_iff.1 negative)]

namespace Function

variable {n d : Int64}

theorem plainNumber_decimals (positive : 0 < d.toInt) (limited : d.toInt ≤ 308) :
    plainNumber [.int n, .int d] =
      .ok (Decimal.fixedFloat d.toInt.toNat (Float.ofInt n.toInt)) := by
  have natural := Int.le_of_lt positive
  have counted : digitCount [.int n, .int d] 1 = .ok d.toInt := digitCount_int rfl (by omega)
  unfold plainNumber
  change (do
    let digits ← digitCount [.int n, .int d] 1
    let rounded ← (Number.int n).roundTo .halfAway digits
    if 0 < digits then return Decimal.fixedFloat digits.toNat rounded.toFloat
    return rounded.text) = _
  rw [counted, Outcome.ok_bind, Number.roundTo_int _ n natural, Outcome.ok_bind, if_pos positive]
  rfl

end Function

def groupedInteger (n : Int) : String :=
  String.ofList (Separators.commaPoint.group (ofInt n).text)

theorem groupedInteger_inj {m n : Int} (same : groupedInteger m = groupedInteger n) : m = n := by
  have grouped := congrArg Separators.commaPoint.ungroup (String.ofList_injective same)
  rw [(Separators.lossless_commaPoint _).restored, (Separators.lossless_commaPoint _).restored]
    at grouped
  exact text_ofInt_inj grouped

def pointZeros (zeros : Nat) : String :=
  String.ofList ('.' :: List.replicate zeros '0')

theorem callFunction_numberFormat_decimals {n d : Int64} (positive : 0 < d.toInt)
    (limited : d.toInt ≤ 308) (context : Context) :
    callFunction context "NUMBER_FORMAT" [.int n, .int d] =
      .ok (.text (groupedInteger (nearest n.toInt) ++ pointZeros d.toInt.toNat)) := by
  have counted : 1 ≤ [Value.int n, Value.int d].length ∧ [Value.int n, Value.int d].length ≤ 2 :=
    ⟨Nat.le_succ 1, Nat.le_refl 2⟩
  have someZero : d.toInt.toNat ≠ 0 := by omega
  rw [(Function.callFunction_numberFormat counted context).1, Function.numberFormat,
    Function.plainNumber_decimals positive limited, Outcome.ok_bind,
    fixedFloat_ofInt (Binary64.log2_toInt_lt n), String.toList_ofList,
    ← text_withZeros _ someZero, group_withZeros, String.ofList_append]
  rfl

/-- With decimals an integer shows the digits of the nearest integer without surplus digits. They
are its own, followed by as many zeros, exactly if it is this integer itself. -/
theorem numberFormat_decimals {d : Int64} (positive : 1 ≤ d.toInt) (limited : d.toInt ≤ 308)
    (n : Int64) (context : Context) :
    callFunction context "NUMBER_FORMAT" [.int n, .int d] =
        .ok (.text (groupedInteger (nearest n.toInt) ++ pointZeros d.toInt.toNat)) ∧
      (callFunction context "NUMBER_FORMAT" [.int n, .int d] =
          (callFunction context "NUMBER_FORMAT" [.int n]).map
            (·.concat (.text (pointZeros d.toInt.toNat))) ↔
        nearest n.toInt = n.toInt) := by
  have shown := callFunction_numberFormat_decimals (n := n) positive limited context
  have plain : (callFunction context "NUMBER_FORMAT" [.int n]).map
      (·.concat (.text (pointZeros d.toInt.toNat))) =
        .ok (.text (groupedInteger n.toInt ++ pointZeros d.toInt.toNat)) := by
    rw [Function.callFunction_numberFormat_int]
    rfl
  refine ⟨shown, ?_⟩
  rw [shown, plain]
  constructor
  · intro same
    injection same with same
    injection same with same
    exact groupedInteger_inj ((String.append_left_inj _).1 same)
  · intro exact
    rw [exact]

/-- The least integer is a power of two. -/
theorem numberFormat_decimals_least :
    1 ≤ (2 : Int64).toInt ∧ (2 : Int64).toInt ≤ 308 ∧
      callFunction Context.bare "NUMBER_FORMAT" [.int Int64.minValue, .int 2] =
        .ok (.text "-9,223,372,036,854,775,808.00") ∧
      callFunction Context.bare "NUMBER_FORMAT" [.int Int64.minValue, .int 2] =
        (callFunction Context.bare "NUMBER_FORMAT" [.int Int64.minValue]).map
          (·.concat (.text ".00")) := by
  have positive : 1 ≤ (2 : Int64).toInt := by decide
  have limited : (2 : Int64).toInt ≤ 308 := by decide
  obtain ⟨shown, ownDigits⟩ :=
    numberFormat_decimals positive limited Int64.minValue Context.bare
  have exact : nearest Int64.minValue.toInt = Int64.minValue.toInt := by decide +kernel
  have written : groupedInteger (nearest Int64.minValue.toInt) ++
      pointZeros (2 : Int64).toInt.toNat = "-9,223,372,036,854,775,808.00" := by decide +kernel
  exact ⟨positive, limited, written ▸ shown, ownDigits.2 exact⟩

/-- An integer of 54 binary digits loses the last one when a decimal is shown. -/
theorem numberFormat_decimals_neighbour :
    callFunction Context.bare "NUMBER_FORMAT" [.int 9007199254740993] =
        .ok (.text "9,007,199,254,740,993") ∧
      callFunction Context.bare "NUMBER_FORMAT" [.int 9007199254740993, .int 1] =
        .ok (.text "9,007,199,254,740,992.0") := by
  have plain : String.ofList (Separators.commaPoint.group
      (ofInt (9007199254740993 : Int64).toInt).text) = "9,007,199,254,740,993" := by decide +kernel
  have written : groupedInteger (nearest (9007199254740993 : Int64).toInt) ++
      pointZeros (1 : Int64).toInt.toNat = "9,007,199,254,740,992.0" := by decide +kernel
  constructor
  · rw [Function.callFunction_numberFormat_int, plain]
  · rw [callFunction_numberFormat_decimals (by decide) (by decide), written]

end Spreadsheet

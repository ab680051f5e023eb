import Spreadsheet.Evaluation
import Spreadsheet.Proofs.Failure

/-!
The errors of computing. Operators fail with a fault of computing only, whatever they are applied
to, and so does the rule of a function, as long as it is called with at least as many arguments as
it looks for. With fewer it may look for an argument that is not there, or for the greatest of no
numbers.
-/

set_option autoImplicit false

namespace Spreadsheet

open FormulaError (OfComputing)

namespace Number

theorem failsOnly_ofFloat (x : Float) : FailsOnly OfComputing (ofFloat x) :=
  .ite (failsOnly_function _ rfl) (.ite (failsOnly_function _ rfl) (failsOnly_ok _))

theorem failsOnly_wholeOrFloat (x : Float) : FailsOnly OfComputing (wholeOrFloat x) := by
  unfold wholeOrFloat
  split
  · exact failsOnly_ok _
  · exact failsOnly_ofFloat x

theorem failsOnly_combine (exact : Int → Int → Int) (approximate : Float → Float → Float)
    (left right : Number) : FailsOnly OfComputing (combine exact approximate left right) := by
  unfold combine
  dsimp only
  split
  · exact failsOnly_ok _
  · exact failsOnly_ofFloat _

theorem failsOnly_divide (left right : Number) : FailsOnly OfComputing (divide left right) := by
  refine .ite (failsOnly_function _ rfl) ?_
  split
  · exact failsOnly_ok _
  · exact failsOnly_ofFloat _

theorem failsOnly_power (base exponent : Number) : FailsOnly OfComputing (power base exponent) := by
  unfold power
  split
  · exact failsOnly_ok _
  · exact .ite (failsOnly_function _ rfl) (failsOnly_ofFloat _)

theorem failsOnly_negate (number : Number) : FailsOnly OfComputing number.negate := by
  cases number with
  | int n =>
      rw [negate]
      split
      · exact failsOnly_ok _
      · exact failsOnly_ofFloat _
  | float x => exact failsOnly_ok _
  | negativeNaN => exact failsOnly_ok _

theorem failsOnly_sum (numbers : List Number) : FailsOnly OfComputing (sum numbers) :=
  failsOnly_foldlM (fun _ _ => failsOnly_combine _ _ _ _) numbers _

theorem failsOnly_product (numbers : List Number) : FailsOnly OfComputing (product numbers) :=
  failsOnly_foldlM (fun _ _ => failsOnly_combine _ _ _ _) numbers _

theorem failsOnly_extreme (replaces : Float → Float → Bool) {numbers : List Number}
    (some_given : 1 ≤ numbers.length) : FailsOnly OfComputing (extreme replaces numbers) := by
  cases numbers with
  | nil => cases some_given
  | cons first rest => exact failsOnly_ok _

theorem failsOnly_remainder (number divisor : Number) :
    FailsOnly OfComputing (remainder number divisor) := by
  refine .ite (failsOnly_function _ rfl) ?_
  split
  · exact failsOnly_ok _
  · exact failsOnly_ofFloat _

theorem failsOnly_magnitude (number : Number) : FailsOnly OfComputing number.magnitude := by
  fun_cases magnitude number with
  | case1 n m fits => exact failsOnly_ok _
  | case2 n large => exact failsOnly_ofFloat _
  | case3 other => exact failsOnly_ofFloat _

theorem failsOnly_average (numbers : List Number) : FailsOnly OfComputing (average numbers) :=
  (failsOnly_sum numbers).bind fun total => failsOnly_divide total _

theorem failsOnly_median {numbers : List Number} (some_given : 1 ≤ numbers.length) :
    FailsOnly OfComputing (median numbers) := by
  have length : (sorted numbers).length = numbers.length := (sorted_perm numbers).length_eq
  have before : numbers.length / 2 - 1 < (sorted numbers).length := by omega
  have after : numbers.length / 2 < (sorted numbers).length := by omega
  unfold median
  simp only [List.getElem?_eq_getElem before, List.getElem?_eq_getElem after]
  refine .ite (failsOnly_ok _) ?_
  exact (failsOnly_combine _ _ _ _).bind fun total => failsOnly_divide total _

theorem failsOnly_spread {numbers : List Number} (some_given : 1 ≤ numbers.length) :
    FailsOnly OfComputing (spread numbers) := by
  apply (failsOnly_extreme _ some_given).bind
  intro high
  exact (failsOnly_extreme _ some_given).bind fun low => failsOnly_combine _ _ _ _

theorem failsOnly_roundScaled (mode : Binary64.Rounding) (x : Float) (digits : Int) :
    FailsOnly OfComputing (roundScaled mode x digits) := by
  have settled (rounded : Float) : FailsOnly OfComputing
      (if digits ≤ 0 then wholeOrFloat (rounded + 0.0) else ofFloat (rounded + 0.0)) :=
    .ite (failsOnly_wholeOrFloat _) (failsOnly_ofFloat _)
  refine .ite ?_ (settled _)
  exact .ite (settled _) (failsOnly_ofFloat x)

theorem failsOnly_roundTo (mode : Binary64.Rounding) (number : Number) (digits : Int) :
    FailsOnly OfComputing (number.roundTo mode digits) := by
  unfold roundTo
  split
  · exact .ite (failsOnly_ok _) (failsOnly_roundScaled _ _ _)
  · exact failsOnly_roundScaled _ _ _

end Number

namespace Value

theorem failsOnly_toNumber (value : Value) : FailsOnly OfComputing value.toNumber := by
  cases value with
  | number n => exact failsOnly_ok _
  | text s =>
      refine .ite (failsOnly_ok _) ?_
      split
      · exact failsOnly_ok _
      · exact failsOnly_function _ rfl

theorem failsOnly_toFloat (value : Value) : FailsOnly OfComputing value.toFloat :=
  value.failsOnly_toNumber.map _

theorem failsOnly_isTrue (value : Value) : FailsOnly OfComputing value.isTrue :=
  value.failsOnly_toFloat.map _

theorem failsOnly_withNumbers {operation : Number → Number → Outcome Number}
    (fails : ∀ left right, FailsOnly OfComputing (operation left right)) (left right : Value) :
    FailsOnly OfComputing (withNumbers operation left right) := by
  apply left.failsOnly_toNumber.bind
  intro first
  apply right.failsOnly_toNumber.bind
  intro second
  exact (fails first second).bind fun result => failsOnly_ok _

theorem failsOnly_applyBinary (operator : BinaryOperator) (left right : Value) :
    FailsOnly OfComputing (applyBinary operator left right) := by
  cases operator with
  | add => exact failsOnly_withNumbers (Number.failsOnly_combine _ _) _ _
  | subtract => exact failsOnly_withNumbers (Number.failsOnly_combine _ _) _ _
  | multiply => exact failsOnly_withNumbers (Number.failsOnly_combine _ _) _ _
  | divide => exact failsOnly_withNumbers Number.failsOnly_divide _ _
  | power => exact failsOnly_withNumbers Number.failsOnly_power _ _
  | concat => exact failsOnly_ok _

theorem failsOnly_applySign (sign : SignOperator) (operand : Value) :
    FailsOnly OfComputing (operand.applySign sign) := by
  apply operand.failsOnly_toNumber.bind
  intro n
  cases sign with
  | negate => exact (Number.failsOnly_negate n).bind fun opposite => failsOnly_ok _
  | plus => exact failsOnly_ok _

end Value

namespace Function

/-- Called with at least so many arguments, the rule fails with a fault of computing only. -/
def ComputingRule (count : Nat) (rule : Rule) : Prop :=
  ∀ context arguments, count ≤ arguments.length → FailsOnly OfComputing (rule context arguments)

theorem ComputingRule.mono {fewer count : Nat} {rule : Rule} (computing : ComputingRule fewer rule)
    (order : fewer ≤ count) : ComputingRule count rule :=
  fun context arguments enough => computing context arguments (Nat.le_trans order enough)

theorem failsOnly_argument (arguments : List Value) (position : Nat)
    (given : position < arguments.length) :
    FailsOnly OfComputing (argument arguments position) := by
  unfold argument
  rw [List.getElem?_eq_getElem given]
  exact failsOnly_ok _

theorem length_numbers {arguments : List Value} {found : List Number}
    (read : numbers arguments = .ok found) : found.length = arguments.length := by
  induction arguments generalizing found with
  | nil =>
      cases read
      rfl
  | cons first rest ih =>
      rw [numbers, List.mapM_cons] at read
      simp only [Outcome.bind_eq_ok_iff] at read
      obtain ⟨number, -, others, following, same⟩ := read
      cases same
      rw [List.length_cons, List.length_cons, ih following]

theorem failsOnly_digitCount (arguments : List Value) (position : Nat) :
    FailsOnly OfComputing (digitCount arguments position) := by
  unfold digitCount
  split
  · exact failsOnly_ok _
  · rename_i value given
    apply value.failsOnly_toFloat.bind
    intro x
    exact .guard (failsOnly_function _ rfl) (failsOnly_ok _)

theorem computingRule_ofNumbers {count : Nat} {compute : List Number → Outcome Number}
    (fails : ∀ numbers : List Number, count ≤ numbers.length →
      FailsOnly OfComputing (compute numbers)) :
    ComputingRule count (ofNumbers compute) := by
  intro context arguments enough
  apply (failsOnly_mapM arguments fun value _ => value.failsOnly_toNumber).bindOk
  intro found read
  have counted : count ≤ found.length := by
    rw [length_numbers read]
    exact enough
  exact (fails found counted).bind fun result => failsOnly_ok _

theorem computingRule_ofTwoNumbers {compute : Number → Number → Outcome Number}
    (fails : ∀ first second, FailsOnly OfComputing (compute first second)) :
    ComputingRule 2 (ofTwoNumbers compute) := by
  intro context arguments enough
  apply (failsOnly_argument arguments 0 (by omega)).bind
  intro left
  apply left.failsOnly_toNumber.bind
  intro first
  apply (failsOnly_argument arguments 1 (by omega)).bind
  intro right
  apply right.failsOnly_toNumber.bind
  intro second
  exact (fails first second).bind fun result => failsOnly_ok _

theorem computingRule_power : ComputingRule 2 power := by
  intro context arguments enough
  apply (failsOnly_argument arguments 0 (by omega)).bind
  intro base
  exact (failsOnly_argument arguments 1 (by omega)).bind fun exponent =>
    Value.failsOnly_applyBinary .power base exponent

theorem computingRule_magnitude : ComputingRule 1 magnitude := by
  intro context arguments enough
  apply (failsOnly_argument arguments 0 (by omega)).bind
  intro value
  apply value.failsOnly_toNumber.bind
  intro n
  exact n.failsOnly_magnitude.bind fun result => failsOnly_ok _

theorem computingRule_rounding (mode : Binary64.Rounding) : ComputingRule 1 (rounding mode) := by
  intro context arguments enough
  apply (failsOnly_argument arguments 0 (by omega)).bind
  intro value
  apply value.failsOnly_toNumber.bind
  intro number
  apply (failsOnly_digitCount arguments 1).bind
  intro digits
  exact (number.failsOnly_roundTo mode digits).bind fun result => failsOnly_ok _

theorem computingRule_ofFloat (compute : Float → Float) : ComputingRule 1 (ofFloat compute) := by
  intro context arguments enough
  apply (failsOnly_argument arguments 0 (by omega)).bind
  intro value
  apply value.failsOnly_toFloat.bind
  intro x
  exact (Number.failsOnly_ofFloat _).bind fun result => failsOnly_ok _

theorem computingRule_constant (x : Float) : ComputingRule 0 (constant x) :=
  fun _ _ _ => failsOnly_ok _

theorem computingRule_squareRoot : ComputingRule 1 squareRoot := by
  intro context arguments enough
  apply (failsOnly_argument arguments 0 (by omega)).bind
  intro value
  apply value.failsOnly_toFloat.bind
  intro x
  refine .guard (failsOnly_function _ rfl) ?_
  exact (Number.failsOnly_ofFloat _).bind fun result => failsOnly_ok _

theorem failsOnly_positive (value : Value) : FailsOnly OfComputing (positive value) :=
  value.failsOnly_toFloat.bind fun _ => .guard (failsOnly_function _ rfl) (failsOnly_ok _)

theorem computingRule_logarithm (compute : Float → Float) :
    ComputingRule 1 (logarithm compute) := by
  intro context arguments enough
  apply (failsOnly_argument arguments 0 (by omega)).bind
  intro value
  apply (failsOnly_positive value).bind
  intro x
  exact (Number.failsOnly_ofFloat _).bind fun result => failsOnly_ok _

theorem computingRule_logarithmTo : ComputingRule 1 logarithmTo := by
  intro context arguments enough
  apply (failsOnly_argument arguments 0 (by omega)).bind
  intro value
  apply (failsOnly_positive value).bind
  intro x
  split
  · exact (Number.failsOnly_ofFloat _).bind fun result => failsOnly_ok _
  · rename_i base given
    apply (failsOnly_positive base).bind
    intro b
    refine .guard (failsOnly_function _ rfl) ?_
    exact (Number.failsOnly_ofFloat _).bind fun result => failsOnly_ok _

theorem computingRule_angle : ComputingRule 2 angle := by
  intro context arguments enough
  apply (failsOnly_argument arguments 0 (by omega)).bind
  intro height
  apply height.failsOnly_toFloat.bind
  intro y
  apply (failsOnly_argument arguments 1 (by omega)).bind
  intro width
  apply width.failsOnly_toFloat.bind
  intro x
  exact (Number.failsOnly_ofFloat _).bind fun result => failsOnly_ok _

theorem computingRule_randomInteger : ComputingRule 2 randomInteger := by
  intro context arguments enough
  apply (failsOnly_argument arguments 0 (by omega)).bind
  intro low
  apply (failsOnly_argument arguments 1 (by omega)).bind
  intro high
  apply low.failsOnly_toFloat.bind
  intro bottom
  apply high.failsOnly_toFloat.bind
  intro top
  refine .guard (failsOnly_function _ rfl) ?_
  exact .guard (failsOnly_function _ rfl) (failsOnly_ok _)

theorem computingRule_randomFraction : ComputingRule 0 randomFraction :=
  fun _ _ _ => failsOnly_ok _

theorem computingRule_countNumbers : ComputingRule 0 countNumbers :=
  fun _ _ _ => failsOnly_ok _

theorem computingRule_countFilled : ComputingRule 0 countFilled :=
  fun _ _ _ => failsOnly_ok _

theorem failsOnly_plainNumber {arguments : List Value} (some_given : 1 ≤ arguments.length) :
    FailsOnly OfComputing (plainNumber arguments) := by
  apply (failsOnly_argument arguments 0 (by omega)).bind
  intro value
  apply value.failsOnly_toNumber.bind
  intro number
  refine .ite (failsOnly_ok _) ?_
  apply (failsOnly_digitCount arguments 1).bind
  intro digits
  apply (number.failsOnly_roundTo _ digits).bind
  intro rounded
  exact .ite (failsOnly_ok _) (failsOnly_ok _)

theorem computingRule_numberFormat (separators : Separators) :
    ComputingRule 1 (numberFormat separators) :=
  fun _ _ enough => (failsOnly_plainNumber enough).bind fun _ => failsOnly_ok _

theorem computingRule_choice : ComputingRule 3 choice := by
  intro context arguments enough
  apply (failsOnly_argument arguments 0 (by omega)).bind
  intro value
  apply value.failsOnly_isTrue.bind
  intro condition
  cases condition with
  | false => exact failsOnly_argument arguments 2 (by omega)
  | true => exact failsOnly_argument arguments 1 (by omega)

theorem computingRule_negation : ComputingRule 1 negation := by
  intro context arguments enough
  apply (failsOnly_argument arguments 0 (by omega)).bind
  intro value
  exact value.failsOnly_isTrue.bind fun condition => failsOnly_ok _

theorem computingRule_conjunction : ComputingRule 0 conjunction := by
  intro context arguments enough
  exact (failsOnly_mapM arguments fun value _ => value.failsOnly_isTrue).bind fun conditions =>
    failsOnly_ok _

theorem computingRule_disjunction : ComputingRule 0 disjunction := by
  intro context arguments enough
  exact (failsOnly_mapM arguments fun value _ => value.failsOnly_isTrue).bind fun conditions =>
    failsOnly_ok _

end Function

end Spreadsheet

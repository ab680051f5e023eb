import Mathlib.Algebra.BigOperators.Group.List.Basic
import Mathlib.Algebra.Field.Rat
import Mathlib.Data.List.Infix
import Mathlib.Data.Rat.Cast.Order
import Spreadsheet.Proofs.Arithmetic

/-!
Calculations with integers. A calculation is a tree of integers with signs, the four operations, and
sums, products and averages of at least one argument. It has a value in exact rational arithmetic,
where nothing overflows and nothing is rounded.

Each operation on 64-bit integers is exact when its exact result is such an integer. The main
statement is that a calculation in which this holds at every step has an integer as its value, and
that it is the exact one.
-/

set_option autoImplicit false

namespace Spreadsheet

def IsInt64 (q : ℚ) : Prop :=
  ∃ n : Int64, (n.toInt : ℚ) = q

theorem isInt64_iff (q : ℚ) :
    IsInt64 q ↔ q.den = 1 ∧ -9223372036854775808 ≤ q.num ∧ q.num < 9223372036854775808 := by
  constructor
  · rintro ⟨n, rfl⟩
    exact ⟨Rat.den_intCast _, n.le_toInt, n.toInt_lt⟩
  · rintro ⟨whole, low, high⟩
    refine ⟨Int64.ofInt q.num, ?_⟩
    rw [Int64.toInt_ofInt_of_le (by omega) (by omega)]
    exact Rat.coe_int_num_of_den_eq_one whole

instance : DecidablePred IsInt64 := fun q =>
  decidable_of_iff _ (isInt64_iff q).symm

namespace SignOperator

def exact : SignOperator → ℚ → ℚ
  | .plus, operand => operand
  | .negate, operand => -operand

end SignOperator

/-- The four operations that are exact on rational numbers. -/
inductive Operation where
  | add
  | subtract
  | multiply
  | divide
deriving DecidableEq

namespace Operation

def operator : Operation → BinaryOperator
  | .add => .add
  | .subtract => .subtract
  | .multiply => .multiply
  | .divide => .divide

def exact : Operation → ℚ → ℚ → ℚ
  | .add, left, right => left + right
  | .subtract, left, right => left - right
  | .multiply, left, right => left * right
  | .divide, left, right => left / right

/-- The result is an integer of 64 bits, and no division is by zero. -/
def StaysWhole (operation : Operation) (left right : ℚ) : Prop :=
  (operation = .divide → right ≠ 0) ∧ IsInt64 (operation.exact left right)

instance (operation : Operation) (left right : ℚ) : Decidable (operation.StaysWhole left right) :=
  inferInstanceAs (Decidable (_ ∧ _))

end Operation

/-- The functions that take their arguments together one by one. -/
inductive Aggregate where
  | sum
  | product
  | average
deriving DecidableEq

namespace Aggregate

def function : Aggregate → Function
  | .sum => ⟨"SUM", 1, none, Function.sum⟩
  | .product => ⟨"PRODUCT", 1, none, Function.product⟩
  | .average => ⟨"AVERAGE", 1, none, Function.average⟩

/-- What the arguments come to when they are taken together. An average takes their sum first. -/
def total : Aggregate → List ℚ → ℚ
  | .product, values => values.prod
  | _, values => values.sum

def exact : Aggregate → List ℚ → ℚ
  | .average, values => values.sum / values.length
  | aggregate, values => aggregate.total values

/-- Taken together from the left, the arguments come to an integer of 64 bits after each of them,
and so does the result. The number of arguments of an average is an integer of 64 bits too, as it is
of every list that there is room for. -/
def StaysWhole (aggregate : Aggregate) (values : List ℚ) : Prop :=
  (∀ front, front <+: values → IsInt64 (aggregate.total front)) ∧
    (aggregate = .average → IsInt64 values.length) ∧ IsInt64 (aggregate.exact values)

instance (aggregate : Aggregate) (values : List ℚ) : Decidable (aggregate.StaysWhole values) :=
  have : Decidable (∀ front, front <+: values → IsInt64 (aggregate.total front)) :=
    decidable_of_iff (∀ front ∈ values.inits, IsInt64 (aggregate.total front))
      (forall_congr' fun front => imp_congr_left (List.mem_inits front values))
  inferInstanceAs (Decidable (_ ∧ _))

end Aggregate

/-- A tree of integers. A function is called by any name under which it is registered, and with at
least one argument. -/
inductive Calculation where
  | literal (n : Int64)
  | sign (operator : SignOperator) (operand : Calculation)
  | binary (operation : Operation) (left right : Calculation)
  | call (aggregate : Aggregate) (name : String)
      (registered : Registry.standard.get? name = some aggregate.function)
      (first : Calculation) (rest : List Calculation)

namespace Calculation

mutual

def expression : Calculation → Expression
  | .literal n => .literal (.int n)
  | .sign operator operand => .sign operator operand.expression
  | .binary operation left right => .binary operation.operator left.expression right.expression
  | .call _ name _ first rest => .call name (first.expression :: expressions rest)

def expressions : List Calculation → List Expression
  | [] => []
  | first :: rest => first.expression :: expressions rest

end

mutual

def exact : Calculation → ℚ
  | .literal n => n.toInt
  | .sign operator operand => operator.exact operand.exact
  | .binary operation left right => operation.exact left.exact right.exact
  | .call aggregate _ _ first rest => aggregate.exact (first.exact :: exactAll rest)

def exactAll : List Calculation → List ℚ
  | [] => []
  | first :: rest => first.exact :: exactAll rest

end

mutual

/-- Exact arithmetic stays within the integers of 64 bits at every step. -/
def StaysWhole : Calculation → Prop
  | .literal _ => True
  | .sign operator operand => operand.StaysWhole ∧ IsInt64 (operator.exact operand.exact)
  | .binary operation left right =>
      left.StaysWhole ∧ right.StaysWhole ∧ operation.StaysWhole left.exact right.exact
  | .call aggregate _ _ first rest =>
      first.StaysWhole ∧ AllStayWhole rest ∧ aggregate.StaysWhole (first.exact :: exactAll rest)

def AllStayWhole : List Calculation → Prop
  | [] => True
  | first :: rest => first.StaysWhole ∧ AllStayWhole rest

end

mutual

def decideStaysWhole : (calculation : Calculation) → Decidable calculation.StaysWhole
  | .literal _ => inferInstanceAs (Decidable True)
  | .sign _ operand =>
      have := decideStaysWhole operand
      inferInstanceAs (Decidable (_ ∧ _))
  | .binary _ left right =>
      have := decideStaysWhole left
      have := decideStaysWhole right
      inferInstanceAs (Decidable (_ ∧ _ ∧ _))
  | .call _ _ _ first rest =>
      have := decideStaysWhole first
      have := decideAllStayWhole rest
      inferInstanceAs (Decidable (_ ∧ _ ∧ _))

def decideAllStayWhole : (calculations : List Calculation) → Decidable (AllStayWhole calculations)
  | [] => inferInstanceAs (Decidable True)
  | first :: rest =>
      have := decideStaysWhole first
      have := decideAllStayWhole rest
      inferInstanceAs (Decidable (_ ∧ _))

end

instance (calculation : Calculation) : Decidable calculation.StaysWhole :=
  calculation.decideStaysWhole

end Calculation

def rationals (ns : List Int64) : List ℚ :=
  ns.map fun n => n.toInt

theorem SignOperator.applySign_int (operator : SignOperator) {a : Int64}
    (whole : IsInt64 (operator.exact a.toInt)) :
    ∃ c : Int64, (c.toInt : ℚ) = operator.exact a.toInt ∧
      (Value.int a).applySign operator = .ok (.int c) := by
  obtain ⟨c, result⟩ := whole
  refine ⟨c, result, ?_⟩
  cases operator with
  | plus =>
      rw [exact] at result
      have same : c = a := Int64.toInt_inj.1 (by exact_mod_cast result)
      rw [same]
      rfl
  | negate =>
      rw [exact] at result
      have opposite : Number.negate (.int a) = .ok (.int c) :=
        Number.negate_int (by exact_mod_cast result.symm)
      exact (Outcome.bind_number _).trans (Outcome.map_number_eq_int_iff.2 opposite)

theorem Operation.applyBinary_int (operation : Operation) {a b : Int64}
    (whole : operation.StaysWhole a.toInt b.toInt) :
    ∃ c : Int64, (c.toInt : ℚ) = operation.exact a.toInt b.toInt ∧
      Value.applyBinary operation.operator (.int a) (.int b) = .ok (.int c) := by
  obtain ⟨nonzero, c, result⟩ := whole
  have computed {compute : Number → Number → Outcome Number}
      (exactly : compute (.int a) (.int b) = .ok (.int c)) :
      Value.withNumbers compute (.int a) (.int b) = .ok (.int c) := by
    rw [Value.withNumbers_of_toNumber rfl rfl, Outcome.map_number_eq_int_iff, exactly]
  refine ⟨c, result, ?_⟩
  cases operation with
  | add =>
      rw [exact] at result
      exact computed (Number.add_int (by exact_mod_cast result.symm))
  | subtract =>
      rw [exact] at result
      exact computed (Number.subtract_int (by exact_mod_cast result.symm))
  | multiply =>
      rw [exact] at result
      exact computed (Number.multiply_int (by exact_mod_cast result.symm))
  | divide =>
      rw [exact] at result
      have divisor : (b.toInt : ℚ) ≠ 0 := nonzero rfl
      have product := (eq_div_iff divisor).1 result
      exact computed (Number.divide_int (by exact_mod_cast divisor)
        (by exact_mod_cast product.symm))

/-- Taking integers together one by one is exact as long as the exact results are integers. -/
theorem foldlM_int {compute : Number → Number → Outcome Number} {exact : ℚ → ℚ → ℚ}
    (exactly : ∀ a b c : Int64, exact a.toInt b.toInt = c.toInt →
      compute (.int a) (.int b) = .ok (.int c)) (ns : List Int64) (start : Int64)
    (whole : ∀ front, front <+: rationals ns → IsInt64 (front.foldl exact start.toInt)) :
    ∃ c : Int64, (c.toInt : ℚ) = (rationals ns).foldl exact start.toInt ∧
      (ns.map Number.int).foldlM compute (.int start) = .ok (.int c) := by
  induction ns generalizing start with
  | nil => exact ⟨start, rfl, rfl⟩
  | cons n rest ih =>
      obtain ⟨next, result⟩ := whole [(n.toInt : ℚ)] (List.prefix_append _ _)
      have computed : compute (.int start) (.int n) = .ok (.int next) :=
        exactly start n next result.symm
      obtain ⟨c, value, folded⟩ := ih next fun front before => by
        rw [result]
        exact whole (_ :: front) (List.cons_prefix_cons.2 ⟨rfl, before⟩)
      refine ⟨c, ?_, ?_⟩
      · rw [value, result]
        rfl
      · rw [List.map_cons, List.foldlM_cons, computed]
        exact folded

namespace Number

variable {ns : List Int64}

theorem sum_int (whole : ∀ front, front <+: rationals ns → IsInt64 front.sum) :
    ∃ c : Int64, (c.toInt : ℚ) = (rationals ns).sum ∧
      sum (ns.map .int) = .ok (.int c) := by
  simp only [List.sum_eq_foldl] at whole ⊢
  refine foldlM_int (fun a b c result => add_int ?_) ns 0 whole
  exact_mod_cast result

theorem product_int (whole : ∀ front, front <+: rationals ns → IsInt64 front.prod) :
    ∃ c : Int64, (c.toInt : ℚ) = (rationals ns).prod ∧
      product (ns.map .int) = .ok (.int c) := by
  simp only [List.prod_eq_foldl] at whole ⊢
  have start : (1 : ℚ) = (1 : Int64).toInt := rfl
  rw [start] at whole ⊢
  refine foldlM_int (fun a b c result => multiply_int ?_) ns 1 whole
  exact_mod_cast result

theorem average_int (nonempty : ns ≠ [])
    (whole : ∀ front, front <+: rationals ns → IsInt64 front.sum)
    (count : IsInt64 (rationals ns).length)
    (result : IsInt64 ((rationals ns).sum / (rationals ns).length)) :
    ∃ c : Int64, (c.toInt : ℚ) = (rationals ns).sum / (rationals ns).length ∧
      average (ns.map .int) = .ok (.int c) := by
  obtain ⟨total, exactTotal, summed⟩ := sum_int whole
  obtain ⟨c, exactAverage⟩ := result
  refine ⟨c, exactAverage, ?_⟩
  rw [rationals, List.length_map] at count exactAverage
  obtain ⟨length, sameLength⟩ := count
  have counted : ofCount (ns.map Number.int).length = .int length := by
    rw [List.length_map]
    exact ofCount_eq_int (by exact_mod_cast sameLength)
  have nonzero : (length.toInt : ℚ) ≠ 0 := by
    rw [sameLength]
    exact_mod_cast mt List.length_eq_zero_iff.1 nonempty
  rw [← rationals, ← exactTotal, ← sameLength, eq_div_iff nonzero] at exactAverage
  rw [average, summed, Outcome.ok_bind, counted]
  exact divide_int (by exact_mod_cast nonzero) (by exact_mod_cast exactAverage.symm)

end Number

theorem Aggregate.callFunction_int (aggregate : Aggregate) {name : String}
    (registered : Registry.standard.get? name = some aggregate.function) {ns : List Int64}
    (nonempty : ns ≠ []) (whole : aggregate.StaysWhole (rationals ns)) (context : Context) :
    ∃ c : Int64, (c.toInt : ℚ) = aggregate.exact (rationals ns) ∧
      callFunction context name (ns.map .int) = .ok (.int c) := by
  obtain ⟨fronts, count, result⟩ := whole
  have one : 1 ≤ (ns.map Value.int).length := by
    rw [List.length_map]
    exact List.length_pos_iff.2 nonempty
  have counted : aggregate.function.checkCount (ns.map Value.int).length = .ok () := by
    rw [Function.checkCount_eq_ok_iff]
    cases aggregate <;> exact ⟨one, nofun⟩
  rw [callFunction_of_get? registered counted]
  have computed {compute : List Number → Outcome Number} {c : Int64}
      (exactly : compute (ns.map .int) = .ok (.int c)) :
      Function.ofNumbers compute context (ns.map .int) = .ok (.int c) := by
    rw [Function.ofNumbers_int, Outcome.map_number_eq_int_iff, exactly]
  cases aggregate with
  | sum =>
      obtain ⟨c, value, summed⟩ := Number.sum_int fronts
      exact ⟨c, value, computed summed⟩
  | product =>
      obtain ⟨c, value, multiplied⟩ := Number.product_int fronts
      exact ⟨c, value, computed multiplied⟩
  | average =>
      obtain ⟨c, value, averaged⟩ := Number.average_int nonempty fronts (count rfl) result
      exact ⟨c, value, computed averaged⟩

theorem operands_cons_int {context : Context} {first : Expression} {rest : List Expression}
    {n : Int64} {ns : List Int64} (firstInner : first.operand context = .ok (.value (.int n)))
    (inner : Expression.operands (context.skip first.size) rest =
      .ok (ns.map fun n => .value (.int n))) :
    Expression.operands context (first :: rest) =
      .ok ((n :: ns).map fun n => .value (.int n)) := by
  rw [Expression.operands, firstInner, Outcome.ok_bind, inner]
  rfl

theorem flatMap_values_int (ns : List Int64) :
    (ns.map fun n => Operand.value (.int n)).flatMap Operand.values = ns.map .int := by
  rw [List.flatMap_map, List.map_eq_flatMap]
  rfl

namespace Calculation

mutual

/-- A calculation that stays whole stands for the integer that is its exact value. -/
theorem operand_expression (context : Context) :
    (calculation : Calculation) → calculation.StaysWhole →
      ∃ c : Int64, (c.toInt : ℚ) = calculation.exact ∧
        calculation.expression.operand context = .ok (.value (.int c))
  | .literal n, _ => ⟨n, rfl, rfl⟩
  | .sign operator operand, whole => by
      rw [StaysWhole] at whole
      obtain ⟨a, value, inner⟩ := operand_expression context operand whole.1
      obtain ⟨c, result, computed⟩ := operator.applySign_int (value ▸ whole.2)
      refine ⟨c, by rw [result, value, exact], ?_⟩
      rw [expression, Expression.operand, inner, Outcome.ok_bind, Operand.scalar, Outcome.ok_bind,
        computed]
      rfl
  | .binary operation left right, whole => by
      rw [StaysWhole] at whole
      obtain ⟨a, leftValue, leftInner⟩ := operand_expression context left whole.1
      obtain ⟨b, rightValue, rightInner⟩ := operand_expression _ right whole.2.1
      rw [← leftValue, ← rightValue] at whole
      obtain ⟨c, result, computed⟩ := operation.applyBinary_int whole.2.2
      refine ⟨c, by rw [result, leftValue, rightValue, exact], ?_⟩
      rw [expression, Expression.operand, leftInner, Outcome.ok_bind, rightInner, Outcome.ok_bind,
        Operand.scalar, Outcome.ok_bind, Operand.scalar, Outcome.ok_bind, computed]
      rfl
  | .call aggregate name registered first rest, whole => by
      rw [StaysWhole] at whole
      obtain ⟨a, firstValue, firstInner⟩ := operand_expression context first whole.1
      obtain ⟨ns, values, inner⟩ := operands_expressions _ rest whole.2.1
      have arguments : first.exact :: exactAll rest = rationals (a :: ns) := by
        rw [← firstValue, ← values]
        rfl
      rw [arguments] at whole
      obtain ⟨c, result, called⟩ :=
        aggregate.callFunction_int registered (List.cons_ne_nil a ns) whole.2.2 _
      refine ⟨c, by rw [result, exact, arguments], ?_⟩
      rw [expression, Expression.operand, operands_cons_int firstInner inner, Outcome.ok_bind,
        flatMap_values_int, called]
      rfl

theorem operands_expressions (context : Context) :
    (calculations : List Calculation) → AllStayWhole calculations →
      ∃ ns : List Int64, rationals ns = exactAll calculations ∧
        Expression.operands context (expressions calculations) =
          .ok (ns.map fun n => .value (.int n))
  | [], _ => ⟨[], rfl, rfl⟩
  | first :: rest, whole => by
      rw [AllStayWhole] at whole
      obtain ⟨a, firstValue, firstInner⟩ := operand_expression context first whole.1
      obtain ⟨ns, values, inner⟩ := operands_expressions _ rest whole.2
      refine ⟨a :: ns, ?_, operands_cons_int firstInner inner⟩
      rw [exactAll, ← firstValue, ← values]
      rfl

end

/-- Formulas of integers are exact while they can be. When exact arithmetic stays within the
integers of 64 bits at every step, after each argument of a function too, and divides by nothing
that is zero, then the program of a calculation has the exact value as its result, as an integer. -/
theorem evaluate_calculation {calculation : Calculation} (whole : calculation.StaysWhole)
    (context : Context) :
    ∃ n : Int64, (n.toInt : ℚ) = calculation.exact ∧
      calculation.expression.postorder.evaluate context = .ok (.int n) := by
  obtain ⟨n, value, stands⟩ := operand_expression context calculation whole
  have run := Expression.run_postorder context [] [] calculation.expression
  rw [List.append_nil, stands] at run
  refine ⟨n, value, ?_⟩
  rw [Program.evaluate, run]
  rfl

def ofExtremes : Calculation :=
  .call .average "average" rfl
    (.binary .subtract (.sign .negate (.literal Int64.maxValue)) (.literal 1))
    [.binary .divide (.call .sum "SUM" rfl (.literal 7) [.literal (-3)]) (.literal 2)]

theorem evaluate_calculation_ofExtremes :
    ofExtremes.StaysWhole ∧ ofExtremes.exact = -4611686018427387903 ∧
      ofExtremes.expression.postorder.evaluate Context.bare =
        .ok (.int (-4611686018427387903)) := by
  have whole : ofExtremes.StaysWhole := by decide +kernel
  have value : ofExtremes.exact = -4611686018427387903 := by decide +kernel
  obtain ⟨n, same, evaluated⟩ := evaluate_calculation whole Context.bare
  have result : n = -4611686018427387903 := by
    rw [value] at same
    exact Int64.toInt_inj.1 (by exact_mod_cast same)
  exact ⟨whole, value, result ▸ evaluated⟩

end Calculation

end Spreadsheet

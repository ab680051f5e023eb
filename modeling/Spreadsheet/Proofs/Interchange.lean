import Mathlib.Data.List.Forall2
import Spreadsheet.Proofs.Chance

/-!
What running a program does not depend on. A block of one cell and the value of this cell are told
apart by no operator and by no function. And of the cell that holds a formula nothing is read but by
three names: its row, its column, and its address.

The main statement is that the program of a part can stand where the value of the part stands.
-/

set_option autoImplicit false

namespace Spreadsheet

/-- No operator and no function tells the operands apart. -/
structure Operand.Interchangeable (operand other : Operand) : Prop where
  scalar : operand.scalar = other.scalar
  values : operand.values = other.values

namespace Operand

theorem interchangeable_self (operand : Operand) : operand.Interchangeable operand :=
  ⟨rfl, rfl⟩

theorem interchangeable_of_scalar {operand : Operand} {value : Value}
    (single : operand.scalar = .ok value) : (Operand.value value).Interchangeable operand := by
  cases operand with
  | value own =>
      cases single
      exact interchangeable_self _
  | range values =>
      cases values with
      | nil => cases single
      | cons first rest =>
          cases rest with
          | nil =>
              cases single
              exact ⟨rfl, rfl⟩
          | cons second others => cases single

end Operand

namespace Program

/-- Stacks with interchangeable operands in each position. -/
abbrev SameStack : List Operand → List Operand → Prop :=
  List.Forall₂ Operand.Interchangeable

theorem sameStack_self (stack : List Operand) : SameStack stack stack :=
  List.forall₂_same.2 fun operand _ => operand.interchangeable_self

theorem SameStack.push {stack other : List Operand} (same : SameStack stack other)
    (operand : Operand) : SameStack (operand :: stack) (operand :: other) :=
  .cons operand.interchangeable_self same

theorem SameStack.arguments {stack other : List Operand} (same : SameStack stack other) :
    stack.reverse.flatMap Operand.values = other.reverse.flatMap Operand.values := by
  have each : stack.map Operand.values = other.map Operand.values := by
    rw [← List.forall₂_eq_eq_eq, List.forall₂_map_left_iff, List.forall₂_map_right_iff]
    exact same.imp fun _ _ one => one.values
  rw [List.flatMap_def, List.flatMap_def, List.map_reverse, List.map_reverse, each]

theorem applyOperator_sameStack {operator : Operator} {stack other result : List Operand}
    (same : SameStack stack other) (applied : applyOperator operator stack = .ok result) :
    ∃ next, applyOperator operator other = .ok next ∧ SameStack result next := by
  unfold applyOperator at applied
  split at applied
  · rename_i sign operand rest
    simp only [Outcome.bind_eq_ok_iff] at applied
    obtain ⟨value, scalar, signed, sign_applied, equal⟩ := applied
    cases equal
    cases same with
    | @cons _ twin _ below first rest =>
        refine ⟨.value signed :: below, ?_, SameStack.push rest _⟩
        simp only [applyOperator, ← first.scalar, scalar, Outcome.ok_bind, sign_applied]
        rfl
  · rename_i binary right left rest
    simp only [Outcome.bind_eq_ok_iff] at applied
    obtain ⟨leftValue, leftScalar, rightValue, rightScalar, joined, join_applied, equal⟩ := applied
    cases equal
    cases same with
    | @cons _ _ _ _ first following =>
        cases following with
        | @cons _ _ _ below second rest =>
            refine ⟨.value joined :: below, ?_, SameStack.push rest _⟩
            simp only [applyOperator, ← first.scalar, ← second.scalar, leftScalar, rightScalar,
              Outcome.ok_bind, join_applied]
            rfl
  · cases applied

theorem applyCall_sameStack {context : Context} {function : String} {count : Nat}
    {stack other result : List Operand} (same : SameStack stack other)
    (applied : applyCall context function count stack = .ok result) :
    ∃ next, applyCall context function count other = .ok next ∧ SameStack result next := by
  unfold applyCall at applied
  split at applied
  · cases applied
  · rename_i enough
    simp only [Outcome.bind_eq_ok_iff] at applied
    obtain ⟨value, called, equal⟩ := applied
    cases equal
    have arguments := SameStack.arguments (List.forall₂_take count same)
    have rest : SameStack (stack.drop count) (other.drop count) := List.forall₂_drop count same
    refine ⟨.value value :: other.drop count, ?_, rest.push _⟩
    rw [applyCall, if_neg (same.length_eq ▸ enough), ← arguments]
    simp only [called]
    rfl

theorem step_sameStack {context : Context} {stack other result : List Operand} {item : Item}
    (same : SameStack stack other) (stepped : step context stack item = .ok result) :
    ∃ next, step context other item = .ok next ∧ SameStack result next := by
  cases item with
  | literal value =>
      cases stepped
      exact ⟨_, rfl, same.push _⟩
  | resolved operand =>
      cases stepped
      exact ⟨_, rfl, same.push _⟩
  | reference target => cases stepped
  | name given =>
      simp only [step, Outcome.bind_eq_ok_iff] at stepped
      obtain ⟨value, named, equal⟩ := stepped
      cases equal
      refine ⟨.value value :: other, ?_, same.push _⟩
      simp only [step, named]
      rfl
  | operator operator => exact applyOperator_sameStack same stepped
  | call function count => exact applyCall_sameStack same stepped

/-- Programs do not tell interchangeable operands apart. -/
theorem run_sameStack {context : Context} {stack other result : List Operand} {program : Program}
    (same : SameStack stack other) (ran : run context stack program = .ok result) :
    ∃ next, run context other program = .ok next ∧ SameStack result next := by
  induction program generalizing context stack other with
  | nil =>
      cases ran
      exact ⟨other, rfl, same⟩
  | cons item rest ih =>
      rw [run] at ran
      cases stepped : step context stack item with
      | error error =>
          rw [stepped] at ran
          cases ran
      | ok after =>
          rw [stepped] at ran
          obtain ⟨next, steppedOther, sameAfter⟩ := step_sameStack same stepped
          rw [run, steppedOther]
          exact ih sameAfter ran

theorem evaluate_eq_ok_iff {context : Context} {program : Program} {value : Value} :
    program.evaluate context = .ok value ↔
      ∃ operand, run context [] program = .ok [operand] ∧ operand.scalar = .ok value := by
  rw [evaluate]
  constructor
  · intro evaluated
    split at evaluated
    · cases evaluated
    · rename_i operand ran
      exact ⟨operand, ran, evaluated⟩
    · cases evaluated
  · rintro ⟨operand, ran, scalar⟩
    rw [ran]
    exact scalar

/-- Where a value stands in a program, any program with this value can stand, if nothing changes
when the program uses up more draws. -/
theorem evaluate_inlined {context : Context} (still : context.Still)
    {front inner back : Program} {value result : Value}
    (evaluated : evaluate context (front ++ .resolved (.value value) :: back) = .ok result)
    (evaluatedInner : evaluate context inner = .ok value) :
    evaluate context (front ++ inner ++ back) = .ok result := by
  obtain ⟨operand, ran, scalar⟩ := evaluate_eq_ok_iff.1 evaluated
  obtain ⟨part, ranInner, scalarInner⟩ := evaluate_eq_ok_iff.1 evaluatedInner
  simp only [run_append, still _] at ran
  cases ranFront : run context [] front with
  | error error =>
      rw [ranFront] at ran
      cases ran
  | ok stack =>
      simp only [ranFront, run, step, still 1] at ran
      have onStack : run context stack inner = .ok (part :: stack) :=
        run_append_below stack ranInner
      have top : SameStack (.value value :: stack) (part :: stack) :=
        .cons (Operand.interchangeable_of_scalar scalarInner) (sameStack_self stack)
      obtain ⟨next, ranBack, same⟩ := run_sameStack top ran
      cases same with
      | @cons _ last _ _ one none =>
          cases none
          refine evaluate_eq_ok_iff.2 ⟨last, ?_, one.scalar.symm.trans scalar⟩
          simp only [run_append, still _, ranFront, onStack]
          exact ranBack

end Program

/-! ### The cell of a formula -/

/-- Does the item ask for the cell that holds the formula? -/
def Item.asksPlace : Item → Bool
  | .name given => ["ROW", "COLUMN", "CELL"].contains (Text.upper given)
  | _ => false

theorem Context.namedValue_withCell {given : String}
    (placeless : (Item.name given).asksPlace = false) (context : Context) (address : Address) :
    (context.withCell address).namedValue given = context.namedValue given := by
  have elsewhere : Text.upper given ∉ ["ROW", "COLUMN", "CELL"] := by
    simpa [Item.asksPlace] using placeless
  unfold namedValue
  split
  case h_4 place => exact absurd (place ▸ by simp) elsewhere
  case h_5 place => exact absurd (place ▸ by simp) elsewhere
  case h_6 place => exact absurd (place ▸ by simp) elsewhere
  all_goals rfl

theorem Function.rule_withCell (context : Context) (address : Address) (arguments : List Value) :
    ∀ function ∈ Registry.builtins,
      function.rule (context.withCell address) arguments = function.rule context arguments := by
  simp only [Registry.builtins, List.forall_mem_cons, List.not_mem_nil, false_implies,
    implies_true, and_true]
  and_intros <;> rfl

theorem callFunction_withCell (context : Context) (address : Address) (name : String)
    (arguments : List Value) :
    callFunction (context.withCell address) name arguments =
      callFunction context name arguments := by
  unfold callFunction
  split
  · rename_i function found
    have member := Registry.mem_builtins_of_get? found
    rw [Function.call, Function.call, Function.rule_withCell context address arguments _ member]
  · rfl

namespace Program

theorem step_withCell {item : Item} (placeless : item.asksPlace = false) (context : Context)
    (address : Address) (stack : List Operand) :
    step (context.withCell address) stack item = step context stack item := by
  cases item with
  | literal value => rfl
  | resolved operand => rfl
  | reference target => rfl
  | name given => rw [step, step, Context.namedValue_withCell placeless]
  | operator operator => rfl
  | call function count => simp only [step, applyCall, callFunction_withCell]

theorem evaluate_withCell {program : Program}
    (placeless : ∀ item ∈ program, item.asksPlace = false) (context : Context)
    (address : Address) :
    evaluate (context.withCell address) program = evaluate context program := by
  refine evaluate_congr fun item member count stack => ?_
  exact step_withCell (placeless item member) (context.skip count) address stack

end Program

end Spreadsheet

import Spreadsheet.Proofs.Failure.Computing
import Spreadsheet.Proofs.StackHeight

/-!
The errors of running a program. Every function that a formula can call is called with at least as
many arguments as its rule looks for, so it fails with a fault of computing only.

The main statement is that a program at a cell, whose references have been replaced and whose items
all find their operands, fails with a fault of computing or of writing only, and never with an
internal one.
-/

set_option autoImplicit false

namespace Spreadsheet

open FormulaError (OfComputing)

namespace Registry

theorem get?_foldl_register {holds : Function → Prop} {functions : List Function}
    (each : ∀ function ∈ functions, holds function) {registry : Registry}
    (before : ∀ name function, registry.get? name = some function → holds function)
    (name : String) (function : Function)
    (found : (functions.foldl register registry).get? name = some function) : holds function := by
  induction functions generalizing registry with
  | nil => exact before name function found
  | cons first rest ih =>
      refine ih (fun other member => each other (List.mem_cons_of_mem _ member)) ?_ found
      intro asked result registered
      rw [register, get?_bind] at registered
      split at registered
      · cases registered
        exact each first List.mem_cons_self
      · exact before asked result registered

theorem get?_foldl_registerAlias {holds : Function → Prop} (pairs : List (String × String))
    {registry : Registry}
    (before : ∀ name function, registry.get? name = some function → holds function)
    (name : String) (function : Function)
    (found : (pairs.foldl (fun registry pair => registry.registerAlias pair.1 pair.2)
      registry).get? name = some function) : holds function := by
  induction pairs generalizing registry with
  | nil => exact before name function found
  | cons pair rest ih =>
      refine ih ?_ found
      intro asked result registered
      rw [get?_registerAlias] at registered
      split at registered
      · rcases Option.or_eq_some_iff.1 registered with target | ⟨-, own⟩
        · exact before _ result target
        · exact before _ result own
      · exact before asked result registered

theorem mem_builtins_of_get? {name : String} {function : Function}
    (found : standard.get? name = some function) : function ∈ builtins := by
  refine get?_foldl_registerAlias builtinAliases ?_ name function found
  refine get?_foldl_register (fun other member => member) ?_
  intro asked result registered
  rw [get?_empty] at registered
  cases registered

end Registry

namespace Function

/-- Each function takes at least as many arguments as its rule looks for. -/
theorem computingRule_of_mem_builtins :
    ∀ function ∈ Registry.builtins, ComputingRule function.minimumCount function.rule := by
  simp only [Registry.builtins, List.forall_mem_cons]
  exact ⟨computingRule_ofNumbers fun numbers _ => Number.failsOnly_sum numbers,
    computingRule_ofNumbers fun numbers _ => Number.failsOnly_product numbers,
    computingRule_ofNumbers fun _ enough => Number.failsOnly_extreme _ enough,
    computingRule_ofNumbers fun _ enough => Number.failsOnly_extreme _ enough,
    computingRule_ofTwoNumbers Number.failsOnly_remainder, computingRule_power,
    computingRule_rounding _, computingRule_rounding _, computingRule_rounding _,
    computingRule_magnitude, computingRule_squareRoot, computingRule_ofFloat _,
    computingRule_logarithm _, computingRule_logarithmTo, computingRule_logarithm _,
    computingRule_constant _, computingRule_constant _, computingRule_randomInteger,
    computingRule_randomFraction, computingRule_ofFloat _, computingRule_ofFloat _,
    computingRule_ofFloat _, computingRule_ofFloat _, computingRule_ofFloat _,
    computingRule_ofFloat _, computingRule_angle, computingRule_ofFloat _,
    computingRule_ofFloat _, computingRule_ofFloat _,
    computingRule_ofNumbers fun numbers _ => Number.failsOnly_average numbers,
    computingRule_ofNumbers fun _ enough => Number.failsOnly_median enough,
    computingRule_ofNumbers fun _ _ => failsOnly_ok _,
    computingRule_ofNumbers fun _ enough => Number.failsOnly_spread enough,
    computingRule_countNumbers, computingRule_countFilled, computingRule_numberFormat _,
    computingRule_numberFormat _, computingRule_choice, computingRule_negation,
    computingRule_conjunction.mono (Nat.zero_le 1), computingRule_disjunction.mono (Nat.zero_le 1),
    fun function member => absurd member List.not_mem_nil⟩

theorem failsOnly_checkCount (function : Function) (count : Nat) :
    FailsOnly OfComputing (function.checkCount count) := by
  refine .ite (failsOnly_function _ rfl) ?_
  split
  · exact failsOnly_ok _
  · exact .ite (failsOnly_function _ rfl) (failsOnly_ok _)

end Function

theorem Registry.failsOnly_rule {name : String} {function : Function}
    (found : standard.get? name = some function) (context : Context) {arguments : List Value}
    (accepted : function.checkCount arguments.length = .ok ()) :
    FailsOnly OfComputing (function.rule context arguments) := by
  have enough := ((function.checkCount_eq_ok_iff _).1 accepted).1
  have computing := Function.computingRule_of_mem_builtins function (mem_builtins_of_get? found)
  exact computing context arguments enough

theorem failsOnly_callFunction (context : Context) (name : String) (arguments : List Value) :
    FailsOnly OfComputing (callFunction context name arguments) := by
  unfold callFunction
  split
  · rename_i function found
    apply (function.failsOnly_checkCount _).bindOk
    intro _ accepted
    exact Registry.failsOnly_rule found context accepted
  · exact failsOnly_function _ rfl

/-- The errors that the formula of a cell can have by itself, whatever the cells that it asks for
hold. -/
inductive FormulaError.Own : FormulaError → Prop
  | writing (fault : SyntaxFault) (plain : (FormulaError.writing fault).isInternal = false) :
      Own (.writing fault)
  | function (fault : FunctionFault) (plain : (FormulaError.function fault).isInternal = false) :
      Own (.function fault)
  | missingCell (address : Address) : Own (.reference (.missingCell address))
  | rangeTooLarge (block : CellRange) (limit : Nat) : Own (.reference (.rangeTooLarge block limit))

namespace FormulaError

theorem OfWriting.isOwn {error : FormulaError} (written : OfWriting error) : Own error := by
  obtain ⟨fault, rfl, plain⟩ := written
  exact .writing fault plain

theorem OfComputing.isOwn {error : FormulaError} (computed : OfComputing error) : Own error := by
  obtain ⟨fault, rfl, plain⟩ := computed
  exact .function fault plain

theorem Own.not_isInternal {error : FormulaError} (own : Own error) : error.isInternal = false := by
  cases own with
  | writing fault plain => exact plain
  | function fault plain => exact plain
  | missingCell address => rfl
  | rangeTooLarge block limit => rfl

end FormulaError

open FormulaError (Own)

theorem Operand.failsOnly_scalar (operand : Operand) : FailsOnly Own operand.scalar := by
  unfold Operand.scalar
  split
  · exact failsOnly_ok _
  · exact failsOnly_ok _
  · exact failsOnly_error (.writing _ rfl)

theorem Context.failsOnly_namedValue {context : Context} {address : Address}
    (at_cell : context.current = some address) (name : String) :
    FailsOnly Own (context.namedValue name) := by
  have current : context.currentCell name = .ok address := by
    rw [Context.currentCell, at_cell]
  unfold Context.namedValue
  rw [current]
  split
  · exact failsOnly_ok _
  · exact failsOnly_ok _
  · exact failsOnly_ok _
  · exact failsOnly_ok _
  · exact failsOnly_ok _
  · exact failsOnly_ok _
  · exact failsOnly_ok _
  · exact failsOnly_ok _
  · exact failsOnly_error (.writing _ rfl)

namespace Program

theorem failsOnly_applyOperator {operator : Operator} {stack : List Operand}
    (enough : operator.arity ≤ stack.length) :
    FailsOnly Own (applyOperator operator stack) := by
  unfold applyOperator
  split
  · rename_i sign operand rest
    apply operand.failsOnly_scalar.bind
    intro value
    refine ((value.failsOnly_applySign sign).mono fun _ => FormulaError.OfComputing.isOwn).bind ?_
    exact fun result => failsOnly_ok _
  · rename_i binary right left rest
    apply left.failsOnly_scalar.bind
    intro first
    apply right.failsOnly_scalar.bind
    intro second
    have applied := Value.failsOnly_applyBinary binary first second
    exact (applied.mono fun _ => FormulaError.OfComputing.isOwn).bind fun result => failsOnly_ok _
  · rename_i noSign noBinary
    cases operator with
    | sign sign =>
        obtain ⟨operand, rest, same⟩ := List.exists_cons_of_length_pos enough
        exact absurd same (noSign sign operand rest rfl)
    | binary binary =>
        obtain ⟨right, rest, same⟩ := List.exists_cons_of_length_pos (Nat.lt_of_succ_lt enough)
        rw [same] at enough
        obtain ⟨left, below, following⟩ :=
          List.exists_cons_of_length_pos (Nat.lt_of_succ_lt_succ enough)
        exact absurd (following ▸ same) (noBinary binary right left below rfl)

theorem failsOnly_applyCall (context : Context) (function : String) {count : Nat}
    {stack : List Operand} (enough : count ≤ stack.length) :
    FailsOnly Own (applyCall context function count stack) := by
  rw [applyCall, if_neg (Nat.not_lt.2 enough)]
  have called := failsOnly_callFunction context function
    ((stack.take count).reverse.flatMap Operand.values)
  exact (called.mono fun _ => FormulaError.OfComputing.isOwn).bind fun result => failsOnly_ok _

theorem failsOnly_step {context : Context} {address : Address}
    (at_cell : context.current = some address) {stack : List Operand} {item : Item}
    (plain : item.reference? = none) (enough : item.operandCount ≤ stack.length) :
    FailsOnly Own (step context stack item) := by
  cases item with
  | literal value => exact failsOnly_ok _
  | resolved operand => exact failsOnly_ok _
  | reference target => cases plain
  | name given =>
      exact (Context.failsOnly_namedValue at_cell given).bind fun value => failsOnly_ok _
  | operator operator => exact failsOnly_applyOperator enough
  | call function count => exact failsOnly_applyCall context function enough

/-- Where the items find their operands, no reference is left and there is a current cell, a program
fails with errors of its own only. -/
theorem failsOnly_run {context : Context} {address : Address}
    (at_cell : context.current = some address) {stack : List Operand} {program : Program}
    (plain : ∀ item ∈ program, item.reference? = none) {height : Nat}
    (fits : program.heightAfter stack.length = some height) :
    FailsOnly Own (run context stack program) := by
  induction program generalizing context stack with
  | nil => exact failsOnly_ok _
  | cons item rest ih =>
      rw [heightAfter] at fits
      split at fits
      · rename_i enough
        rw [run]
        cases stepped : step context stack item with
        | error error =>
            have fails := failsOnly_step at_cell (plain item List.mem_cons_self) enough
            exact failsOnly_error (fails error stepped)
        | ok next =>
            rw [← (length_of_step stepped).2] at fits
            have later := fun other member => plain other (List.mem_cons_of_mem _ member)
            have atSameCell : (context.skip 1).current = some address := at_cell
            exact ih atSameCell later fits
      · cases fits

theorem failsOnly_evaluate {context : Context} {address : Address}
    (at_cell : context.current = some address) {program : Program}
    (plain : ∀ item ∈ program, item.reference? = none) (fits : program.heightAfter 0 = some 1) :
    FailsOnly Own (program.evaluate context) := by
  have fails : FailsOnly Own (run context [] program) := failsOnly_run at_cell plain fits
  unfold evaluate
  split
  · rename_i error failed
    exact failsOnly_error (fails error failed)
  · rename_i operand ran
    exact operand.failsOnly_scalar
  · rename_i result single ran
    have length := heightAfter_of_run ran
    rw [List.length_nil, fits] at length
    obtain ⟨operand, same⟩ := List.length_eq_one_iff.1 (Option.some.inj length).symm
    exact absurd same (single operand)

end Program

end Spreadsheet

import Spreadsheet.Function.Registry
import Spreadsheet.Program.Parser

/-!
Running programs. Operands are pushed on a stack; an operator takes its operands from the top and
a call its arguments, and each pushes its result. A block of cells counts as its value when it
has only one, and otherwise may only be an argument. The main statements say that running a
program is running its first part and then its second on the stack that the first leaves, and
that what lies below the operands of a program stays where it is.
-/

set_option autoImplicit false

namespace Spreadsheet

namespace Operand

def scalar : Operand → Outcome Value
  | .value v => .ok v
  | .range [v] => .ok v
  | .range _ => .error (.writing .rangeAsValue)

def values : Operand → List Value
  | .value v => [v]
  | .range vs => vs

end Operand

def callFunction (context : Context) (name : String) (arguments : List Value) : Outcome Value :=
  match Registry.standard.get? name with
  | some function => function.call context arguments
  | none => .error (.function (.unknownFunction name))

namespace Program

/-- Apply an operator to the operands on top of the stack, the last operand being topmost. -/
def applyOperator (operator : Operator) (stack : List Operand) : Outcome (List Operand) :=
  match operator, stack with
  | .sign sign, operand :: rest => do
      let value ← operand.scalar
      let result ← value.applySign sign
      return .value result :: rest
  | .binary binary, right :: left :: rest => do
      let leftValue ← left.scalar
      let rightValue ← right.scalar
      let result ← Value.applyBinary binary leftValue rightValue
      return .value result :: rest
  | _, _ => .error (.writing .malformed)

/-- Call a function with the topmost operands as arguments, blocks spread out into their values. -/
def applyCall (context : Context) (function : String) (count : Nat) (stack : List Operand) :
    Outcome (List Operand) :=
  if stack.length < count then .error (.writing .malformed)
  else do
    let arguments := (stack.take count).reverse.flatMap Operand.values
    let result ← callFunction context function arguments
    return .value result :: stack.drop count

def step (context : Context) (stack : List Operand) : Item → Outcome (List Operand)
  | .literal value => .ok (.value value :: stack)
  | .resolved operand => .ok (operand :: stack)
  | .reference target => .error (.reference (.unresolved target))
  | .name name => do
      let value ← context.namedValue name
      return .value value :: stack
  | .operator operator => applyOperator operator stack
  | .call function count => applyCall context function count stack

def run (context : Context) (stack : List Operand) : Program → Outcome (List Operand)
  | [] => .ok stack
  | item :: rest =>
      match step context stack item with
      | .error error => .error error
      | .ok next => run (context.skip 1) next rest

def evaluate (context : Context) (program : Program) : Outcome Value :=
  match run context [] program with
  | .error error => .error error
  | .ok [operand] => operand.scalar
  | .ok _ => .error (.writing .malformed)

theorem run_cons (context : Context) (stack : List Operand) (item : Item) (rest : Program) :
    run context stack (item :: rest) =
      step context stack item >>= fun next => run (context.skip 1) next rest := by
  rw [run]
  cases step context stack item <;> rfl

theorem run_append (context : Context) (stack : List Operand) (first second : Program) :
    run context stack (first ++ second) =
      match run context stack first with
      | .error error => .error error
      | .ok next => run (context.skip first.length) next second := by
  induction first generalizing context stack with
  | nil => rw [List.nil_append, List.length_nil, Context.skip_zero, run]
  | cons item rest ih =>
      simp only [List.cons_append, run]
      cases step context stack item with
      | error error => rfl
      | ok next =>
          rw [List.length_cons, Nat.add_comm, ← Context.skip_skip]
          exact ih (context.skip 1) next

example (context : Context) :
    run context [] [.call "RAND_FLOAT" 0, .call "RAND_FLOAT" 0] =
      .ok [.value (.number (.float (context.draws 1).fraction)),
        .value (.number (.float (context.draws 0).fraction))] :=
  rfl

theorem applyOperator_append {operator : Operator} {stack result : List Operand}
    (below : List Operand) (h : applyOperator operator stack = .ok result) :
    applyOperator operator (stack ++ below) = .ok (result ++ below) := by
  unfold applyOperator at h
  split at h
  · simp only [Outcome.bind_eq_ok_iff] at h
    obtain ⟨value, scalar, applied, signed, equal⟩ := h
    cases equal
    simp [applyOperator, scalar, signed, bind, Except.bind, pure, Except.pure]
  · simp only [Outcome.bind_eq_ok_iff] at h
    obtain ⟨leftValue, left, rightValue, right, applied, joined, equal⟩ := h
    cases equal
    simp [applyOperator, left, right, joined, bind, Except.bind, pure, Except.pure]
  · cases h

theorem applyCall_append {context : Context} {function : String} {count : Nat}
    {stack result : List Operand} (below : List Operand)
    (h : applyCall context function count stack = .ok result) :
    applyCall context function count (stack ++ below) = .ok (result ++ below) := by
  unfold applyCall at h
  split at h
  · cases h
  · rename_i enough
    simp only [Outcome.bind_eq_ok_iff] at h
    obtain ⟨value, called, equal⟩ := h
    cases equal
    have taken : (stack ++ below).take count = stack.take count :=
      List.take_append_of_le_length (by omega)
    have kept : (stack ++ below).drop count = stack.drop count ++ below :=
      List.drop_append_of_le_length (by omega)
    rw [applyCall, if_neg (by simp only [List.length_append]; omega), taken, kept]
    simp only [called]
    rfl

theorem step_append {context : Context} {stack result : List Operand} {item : Item}
    (below : List Operand) (h : step context stack item = .ok result) :
    step context (stack ++ below) item = .ok (result ++ below) := by
  cases item with
  | literal value => cases h; rfl
  | reference target => cases h
  | resolved operand => cases h; rfl
  | name name =>
      simp only [step, Outcome.bind_eq_ok_iff] at h
      obtain ⟨value, named, equal⟩ := h
      cases equal
      simp [step, named, bind, Except.bind, pure, Except.pure]
  | operator operator => exact applyOperator_append below h
  | call function count => exact applyCall_append below h

theorem run_append_below {context : Context} {stack result : List Operand} {program : Program}
    (below : List Operand) (h : run context stack program = .ok result) :
    run context (stack ++ below) program = .ok (result ++ below) := by
  induction program generalizing context stack with
  | nil =>
      cases h
      rfl
  | cons item rest ih =>
      simp only [run] at h ⊢
      cases stepped : step context stack item with
      | error error => simp [stepped] at h
      | ok next =>
          rw [stepped] at h
          rw [step_append below stepped]
          exact ih h

end Program

def evaluateFormula (context : Context) (formula : String) : Outcome Value := do
  let program ← Program.parse formula
  program.evaluate context

end Spreadsheet

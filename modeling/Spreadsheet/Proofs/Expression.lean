import Spreadsheet.Evaluation

/-!
Expressions as trees. A formula is a tree whose leaves are operands and whose inner nodes are
operators with exactly their operands and calls with any number of arguments. Read after its
children, each node is one item of a program.

A tree has a meaning of its own, which mentions neither a stack nor a program. The main statement
is that running the program of a tree gives that meaning, errors included.
-/

set_option autoImplicit false

namespace Spreadsheet

inductive Expression where
  | literal (value : Value)
  | reference (target : Reference)
  | resolved (operand : Operand)
  | name (name : String)
  | sign (operator : SignOperator) (operand : Expression)
  | binary (operator : BinaryOperator) (left right : Expression)
  | call (function : String) (arguments : List Expression)

namespace Outcome

theorem ok_bind {α β : Type} (value : α) (next : α → Outcome β) :
    (Except.ok value >>= next) = next value :=
  rfl

theorem error_bind {α β : Type} (error : FormulaError) (next : α → Outcome β) :
    (Except.error error >>= next) = Except.error error :=
  rfl

end Outcome

namespace Expression

mutual

def postorder : Expression → Program
  | .literal value => [.literal value]
  | .reference target => [.reference target]
  | .resolved operand => [.resolved operand]
  | .name given => [.name given]
  | .sign operator operand => operand.postorder ++ [.operator (.sign operator)]
  | .binary operator left right =>
      left.postorder ++ right.postorder ++ [.operator (.binary operator)]
  | .call function arguments =>
      postorderAll arguments ++ [.call function arguments.length]

def postorderAll : List Expression → Program
  | [] => []
  | first :: rest => first.postorder ++ postorderAll rest

end

mutual

def size : Expression → Nat
  | .literal _ => 1
  | .reference _ => 1
  | .resolved _ => 1
  | .name _ => 1
  | .sign _ operand => operand.size + 1
  | .binary _ left right => left.size + right.size + 1
  | .call _ arguments => sizeAll arguments + 1

def sizeAll : List Expression → Nat
  | [] => 0
  | first :: rest => first.size + sizeAll rest

end

theorem postorderAll_append (first second : List Expression) :
    postorderAll (first ++ second) = postorderAll first ++ postorderAll second := by
  induction first with
  | nil => rfl
  | cons tree rest ih =>
      rw [List.cons_append, postorderAll, postorderAll, ih, List.append_assoc]

mutual

/-- What a tree stands for. Children come first, from left to right, and the first error ends the
work; then an operator needs a single value from each child, the left one before the right. Each
node has a draw of its own: a child comes after the draws of its siblings to the left, and a call
after those of its arguments. -/
def operand (context : Context) : Expression → Outcome Operand
  | .literal value => .ok (.value value)
  | .reference target => .error (.reference (.unresolved target))
  | .resolved operand => .ok operand
  | .name given => do
      let value ← context.namedValue given
      return .value value
  | .sign operator child => do
      let operand ← child.operand context
      let value ← operand.scalar
      let result ← value.applySign operator
      return .value result
  | .binary operator left right => do
      let leftOperand ← left.operand context
      let rightOperand ← right.operand (context.skip left.size)
      let leftValue ← leftOperand.scalar
      let rightValue ← rightOperand.scalar
      let result ← Value.applyBinary operator leftValue rightValue
      return .value result
  | .call function arguments => do
      let operands ← operands context arguments
      let result ← callFunction (context.skip (sizeAll arguments)) function
        (operands.flatMap Operand.values)
      return .value result

def operands (context : Context) : List Expression → Outcome (List Operand)
  | [] => .ok []
  | first :: rest => do
      let operand ← first.operand context
      let others ← operands (context.skip first.size) rest
      return operand :: others

end

def evaluate (context : Context) (expression : Expression) : Outcome Value := do
  let operand ← expression.operand context
  operand.scalar

theorem length_operands {context : Context} {arguments : List Expression}
    {found : List Operand} (success : operands context arguments = .ok found) :
    found.length = arguments.length := by
  induction arguments generalizing context found with
  | nil =>
      rw [operands] at success
      cases success
      rfl
  | cons first rest ih =>
      rw [operands] at success
      simp only [Outcome.bind_eq_ok_iff] at success
      obtain ⟨operand, -, others, following, same⟩ := success
      cases same
      rw [List.length_cons, List.length_cons, ih following]

private theorem applyCall_arguments (context : Context) (function : String)
    (operands stack : List Operand) :
    Program.applyCall context function operands.length (operands.reverse ++ stack) =
      callFunction context function (operands.flatMap Operand.values) >>= fun result =>
        pure (.value result :: stack) := by
  have enough : ¬ (operands.reverse ++ stack).length < operands.length := by
    rw [List.length_append, List.length_reverse]
    omega
  have taken : (operands.reverse ++ stack).take operands.length = operands.reverse :=
    List.take_left' List.length_reverse
  have below : (operands.reverse ++ stack).drop operands.length = stack :=
    List.drop_left' List.length_reverse
  rw [Program.applyCall, if_neg enough, taken, below, List.reverse_reverse]

mutual

/-- On any stack and before any further items, the items of a tree push what the tree stands for,
or fail as the tree does. -/
theorem run_postorder (context : Context) (stack : List Operand) (rest : Program) :
    (expression : Expression) →
      Program.run context stack (expression.postorder ++ rest) =
        expression.operand context >>= fun operand =>
          Program.run (context.skip expression.size) (operand :: stack) rest
  | .literal value => rfl
  | .reference target => rfl
  | .resolved operand => rfl
  | .name given => by
      rw [postorder, List.singleton_append, Program.run_cons, operand, Program.step, bind_assoc,
        bind_assoc]
      simp only [pure_bind, size]
  | .sign operator child => by
      rw [postorder, List.append_assoc, run_postorder context stack _ child, operand, bind_assoc]
      congr 1
      funext found
      rw [List.singleton_append, Program.run_cons, Context.skip_skip]
      simp only [Program.step, Program.applyOperator, bind_assoc, pure_bind, size]
  | .binary operator left right => by
      rw [postorder, List.append_assoc, List.append_assoc, run_postorder context stack _ left,
        operand, bind_assoc]
      congr 1
      funext leftFound
      rw [run_postorder _ _ _ right, bind_assoc]
      congr 1
      funext rightFound
      rw [List.singleton_append, Program.run_cons, Context.skip_skip, Context.skip_skip]
      simp only [Program.step, Program.applyOperator, bind_assoc, pure_bind, size]
  | .call function arguments => by
      rw [postorder, List.append_assoc, run_postorderAll context stack _ arguments, operand,
        bind_assoc]
      cases success : operands context arguments with
      | error error => exact (Outcome.error_bind _ _).trans (Outcome.error_bind _ _).symm
      | ok found =>
          rw [Outcome.ok_bind, Outcome.ok_bind, ← length_operands success, List.singleton_append,
            Program.run_cons, Program.step, applyCall_arguments, bind_assoc, bind_assoc,
            Context.skip_skip]
          simp only [pure_bind, size]

theorem run_postorderAll (context : Context) (stack : List Operand) (rest : Program) :
    (arguments : List Expression) →
      Program.run context stack (postorderAll arguments ++ rest) =
        operands context arguments >>= fun found =>
          Program.run (context.skip (sizeAll arguments)) (found.reverse ++ stack) rest
  | [] => by
      rw [sizeAll, Context.skip_zero]
      rfl
  | first :: others => by
      rw [postorderAll, List.append_assoc, run_postorder context stack _ first, operands,
        bind_assoc]
      congr 1
      funext found
      rw [run_postorderAll _ _ rest others, bind_assoc]
      congr 1
      funext following
      rw [pure_bind, List.reverse_cons, List.append_assoc, Context.skip_skip]
      rfl

end

/-- Running the program of a tree gives the meaning of the tree, in every context. -/
theorem evaluate_postorder (context : Context) (expression : Expression) :
    expression.postorder.evaluate context = expression.evaluate context := by
  have pushed := run_postorder context [] [] expression
  rw [List.append_nil] at pushed
  rw [Program.evaluate, pushed, evaluate]
  cases expression.operand context <;> rfl

end Expression

end Spreadsheet

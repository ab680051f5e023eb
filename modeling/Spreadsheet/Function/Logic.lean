import Spreadsheet.Function

/-!
Choices and truth values. Every number but zero is true; results are one and zero. All arguments
have been evaluated before, so a choice does not spare the branch that it drops, and each argument
of a conjunction is read even when an earlier one has settled it.
-/

set_option autoImplicit false

namespace Spreadsheet.Function

def truth (holds : Bool) : Value :=
  .int (if holds then 1 else 0)

def choice : Rule := fun _ arguments => do
  let condition ← (← argument arguments 0).isTrue
  argument arguments (if condition then 1 else 2)

def negation : Rule := fun _ arguments => do
  let condition ← (← argument arguments 0).isTrue
  return truth (!condition)

def conjunction : Rule := fun _ arguments => do
  let conditions ← arguments.mapM Value.isTrue
  return truth (conditions.all id)

def disjunction : Rule := fun _ arguments => do
  let conditions ← arguments.mapM Value.isTrue
  return truth (conditions.any id)

end Spreadsheet.Function

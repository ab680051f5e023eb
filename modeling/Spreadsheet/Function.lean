import Spreadsheet.Arithmetic
import Spreadsheet.Context

/-!
Functions. A function has a name, the number of arguments that it takes, and a rule. Blocks of
cells have been spread out into their values before the rule sees the arguments. The rule itself
does not count them: an argument that is not there is an error of its own.
-/

set_option autoImplicit false

namespace Spreadsheet

abbrev Rule := Context → List Value → Outcome Value

structure Function where
  name : String
  minimumCount : Nat
  maximumCount : Option Nat
  rule : Rule

namespace Function

def checkCount (function : Function) (count : Nat) : Outcome Unit :=
  if count < function.minimumCount then
    .error (.function (.argumentCount function.name
      ("at least " ++ Nat.repr function.minimumCount) count))
  else
    match function.maximumCount with
    | none => .ok ()
    | some maximum =>
        if maximum < count then
          .error (.function (.argumentCount function.name ("at most " ++ Nat.repr maximum) count))
        else .ok ()

def call (function : Function) (context : Context) (arguments : List Value) : Outcome Value := do
  function.checkCount arguments.length
  function.rule context arguments

def argument (arguments : List Value) (position : Nat) : Outcome Value :=
  match arguments[position]? with
  | some value => .ok value
  | none => .error (.function (.missingArgument (position + 1)))

def numbers (arguments : List Value) : Outcome (List Number) :=
  arguments.mapM Value.toNumber

/-- An argument as a number of digits, which is zero when the argument is not given. Digits are
counted in whole numbers up to 308 either way. -/
def digitCount (arguments : List Value) (position : Nat) : Outcome Int :=
  match arguments[position]? with
  | none => .ok 0
  | some value => do
      let digits := Binary64.round .towardZero (← value.toFloat)
      if 308.0 < digits.abs then throw (.function (.digitCountOutOfRange digits))
      return Binary64.toInt digits

theorem checkCount_eq_ok_iff (function : Function) (count : Nat) :
    function.checkCount count = .ok () ↔
      function.minimumCount ≤ count ∧ ∀ maximum ∈ function.maximumCount, count ≤ maximum := by
  unfold checkCount
  split
  · simp only [reduceCtorEq, false_iff, not_and]
    omega
  · split
    · rename_i unlimited
      simp only [unlimited, Option.not_mem_none, false_implies, implies_true, and_true, true_iff]
      omega
    · rename_i maximum limited
      simp only [limited, Option.mem_def, Option.some.injEq, forall_eq']
      split
      · simp only [reduceCtorEq, false_iff]
        omega
      · simp only [true_iff]
        omega

end Function

end Spreadsheet

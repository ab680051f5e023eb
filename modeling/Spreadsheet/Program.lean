import Spreadsheet.FormulaError
import Spreadsheet.Text.Quoted

/-!
Programs. A formula is run as a list of items in reverse Polish order: operands put a value on
a stack, operators and calls take theirs from it. References stay symbolic until they are
resolved. The main statements are that resolving leaves no reference, keeps everything else in
place, and leaves a program without references alone.
-/

set_option autoImplicit false

namespace Spreadsheet

inductive Item where
  | literal (value : Value)
  | reference (reference : Reference)
  | resolved (operand : Operand)
  | name (name : String)
  | operator (operator : Operator)
  /-- A function applied to the topmost `count` operands. -/
  | call (function : String) (count : Nat)
deriving DecidableEq

/-- The items of a formula in reverse Polish order. -/
abbrev Program := List Item

namespace Item

/-- The item in writing. Signs are marked to tell them from the binary operators. -/
def text : Item → String
  | .literal (.text s) => Text.quoted s
  | .literal (.number n) => n.text
  | .reference target => target.text
  | .resolved (.value value) => s!"<{value.display}>"
  | .resolved (.range values) => s!"<{Nat.repr values.length} cells>"
  | .name given => given
  | .operator (.sign sign) => "u" ++ sign.symbol
  | .operator (.binary binary) => binary.symbol
  | .call function count => s!"{function}/{Nat.repr count}"

def reference? : Item → Option Reference
  | .reference target => some target
  | _ => none

def resolveWith {m : Type → Type} [Monad m] (resolver : Reference → m Operand) :
    Item → m Item
  | .reference target => do
      let operand ← resolver target
      return .resolved operand
  | item => pure item

end Item

namespace Program

def text (program : Program) : String :=
  " ".intercalate (program.map Item.text)

def references (program : Program) : List Reference :=
  program.filterMap Item.reference?

/-- Replace every reference by what a resolver finds for it, from left to right. The first
failure of the resolver ends the work. -/
def resolveWith {m : Type → Type} [Monad m] (resolver : Reference → m Operand)
    (program : Program) : m Program :=
  program.mapM (Item.resolveWith resolver)

def resolved (resolver : Reference → Operand) (program : Program) : Program :=
  program.map fun item =>
    match item with
    | .reference reference => .resolved (resolver reference)
    | other => other

theorem resolveWith_pure (resolver : Reference → Operand) (program : Program) :
    resolveWith (m := Id) resolver program = program.resolved resolver := by
  have one (item : Item) : Item.resolveWith (m := Id) resolver item =
      (match item with
      | .reference reference => .resolved (resolver reference)
      | other => other) := by
    cases item <;> rfl
  induction program with
  | nil => rfl
  | cons item rest ih =>
      rw [resolveWith, List.mapM_cons, one]
      exact congrArg (List.cons _) ih

theorem references_resolved (resolver : Reference → Operand) (program : Program) :
    (program.resolved resolver).references = [] := by
  induction program with
  | nil => rfl
  | cons item rest ih =>
      simp only [references, resolved, List.map_cons, List.filterMap_cons] at ih ⊢
      cases item <;> simpa [Item.reference?] using ih

end Program

end Spreadsheet

import Spreadsheet.Numeral

/-!
Values and operands. A value is a number or a text; the text of a cell becomes a number when it
reads as one. An operand of an operator or a function is one value or the values of a block of
cells.
-/

set_option autoImplicit false

namespace Spreadsheet

inductive Value where
  | number (n : Number)
  | text (s : String)
deriving DecidableEq

/-- What stands on the operand stack: one value, or the values of a block of cells column by
column. -/
inductive Operand where
  | value (v : Value)
  | range (values : List Value)
deriving DecidableEq

namespace Value

def int (n : Int64) : Value :=
  .number (.int n)

def ofLiteral (source : String) : Value :=
  match Numeral.read source with
  | some n => .number n
  | none => .text source

def display : Value → String
  | .number n => n.text
  | .text s => s

def isBlank : Value → Bool
  | .number _ => false
  | .text s => Text.isBlankText s

def concat (left right : Value) : Value :=
  .text (left.display ++ right.display)

theorem concat_assoc (a b c : Value) : (a.concat b).concat c = a.concat (b.concat c) := by
  simp [concat, display, String.append_assoc]

end Value

end Spreadsheet

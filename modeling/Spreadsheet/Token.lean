import Spreadsheet.FormulaError

/-!
Tokens of a formula. A plus or a minus is one token whether it joins two operands or stands
before one; which of the two it is depends on what precedes it. A function's name and its opening
parenthesis are one token.
-/

set_option autoImplicit false

namespace Spreadsheet

inductive Token where
  | number (n : Number)
  | text (s : String)
  | reference (r : Reference)
  | name (s : String)
  /-- A function's name together with the parenthesis that opens its arguments. -/
  | function (name : String)
  | operator (o : BinaryOperator)
  | opening
  | closing
  | comma
deriving DecidableEq

def BinaryOperator.asSign? : BinaryOperator → Option SignOperator
  | .add => some .plus
  | .subtract => some .negate
  | _ => none

def Token.ofChar? : Char → Option Token
  | '+' => some (.operator .add)
  | '-' => some (.operator .subtract)
  | '*' => some (.operator .multiply)
  | '/' => some (.operator .divide)
  | '^' => some (.operator .power)
  | '&' => some (.operator .concat)
  | '(' => some .opening
  | ')' => some .closing
  | ',' => some .comma
  | _ => none

end Spreadsheet

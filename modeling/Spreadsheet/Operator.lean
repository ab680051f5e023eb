/-!
Operators. A sign stands before its operand and a binary operator between its two. An operator
that binds more tightly takes its operands first; of equally tight ones the powers and signs
group to the right and all others to the left.
-/

set_option autoImplicit false

namespace Spreadsheet

inductive SignOperator where
  | negate
  | plus
deriving DecidableEq

inductive BinaryOperator where
  | add
  | subtract
  | multiply
  | divide
  | power
  | concat
deriving DecidableEq

inductive Operator where
  | sign (operator : SignOperator)
  | binary (operator : BinaryOperator)
deriving DecidableEq

def BinaryOperator.precedence : BinaryOperator → Nat
  | .concat => 0
  | .add | .subtract => 1
  | .multiply | .divide => 2
  | .power => 4

def BinaryOperator.groupsRight (operator : BinaryOperator) : Bool :=
  operator = .power

def BinaryOperator.symbol : BinaryOperator → String
  | .add => "+"
  | .subtract => "-"
  | .multiply => "*"
  | .divide => "/"
  | .power => "^"
  | .concat => "&"

def SignOperator.symbol : SignOperator → String
  | .plus => "+"
  | .negate => "-"

namespace Operator

/-- How tightly the operator binds. Signs stand between products and powers. -/
def precedence : Operator → Nat
  | .sign _ => 3
  | .binary operator => operator.precedence

def groupsRight : Operator → Bool
  | .sign _ => true
  | .binary operator => operator.groupsRight

def isSign : Operator → Bool
  | .sign _ => true
  | .binary _ => false

def arity : Operator → Nat
  | .sign _ => 1
  | .binary _ => 2

def symbol : Operator → String
  | .sign operator => operator.symbol
  | .binary operator => operator.symbol

end Operator

end Spreadsheet

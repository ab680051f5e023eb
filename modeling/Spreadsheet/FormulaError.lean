import Spreadsheet.Operator
import Spreadsheet.Reference
import Spreadsheet.Value

/-!
What can be wrong with a formula. A cause says what happened and to what; it belongs to one of
five kinds, each with its own introduction in writing. The sentences stand here and nowhere else.
A formula error is shown inside the cell that it concerns, after a mark.
-/

set_option autoImplicit false

namespace Spreadsheet

inductive SyntaxFault where
  | emptyFormula
  | missingOperator
  /-- A function or an opening parenthesis follows an operand. -/
  | missingOperatorBefore (what : String)
  | missingOperandBefore (operator : BinaryOperator)
  | missingOperandAfter (operator : Operator)
  /-- The formula ends, or a comma stands, where an operand should begin. -/
  | missingOperand
  /-- An argument list has nothing between two commas or before its end. -/
  | missingArgument
  | emptyParentheses
  | unmatchedOpening
  | unmatchedClosing
  | unexpectedComma
  | adjacentReferences
  | unterminatedText
  | unterminatedBracket
  | invalidNumber (numeral : String)
  | repeatedEquals
  /-- A character that starts no token, with its position in bytes, counted from one. -/
  | unexpectedCharacter (character : Char) (position : Nat)
  | unbalancedBrackets (reference : String)
  | invalidReference (reference : String)
  /-- A reference has the form of one but names no cell. -/
  | invalidReferenceAddress (reference : String) (cause : AddressError)
  | malformed
  | rangeAsValue
  | unknownName (name : String)
  | address (cause : AddressError)
  | described (description : String)
deriving DecidableEq

inductive ReferenceFault where
  | missingCell (address : Address)
  /-- More formula cells refer to each other in a row than the limit allows. -/
  | chainTooLong (address : Address) (limit : Nat)
  | rangeTooLarge (range : CellRange) (limit : Nat)
  | unresolved (reference : Reference)
  /-- A name that stands for a property of the current cell is used without one. -/
  | outsideCell (name : String)
  | described (description : String)
deriving DecidableEq

inductive FunctionFault where
  | nonNumeric (source : String)
  | notReal
  | overflow
  | divisionByZero
  | unknownFunction (name : String)
  | argumentCount (function expected : String) (actual : Nat)
  /-- A position of an argument, counted from one, that was not given. -/
  | missingArgument (position : Nat)
  | noValues
  | digitCountOutOfRange (digits : Float)
  | negativeSquareRoot
  | nonPositiveLogarithm (value : Value)
  | logarithmBaseOne
  | emptyDraw (low high : Value)
  | drawOutOfRange
  | described (description : String)
deriving DecidableEq

inductive OptionsFault where
  | noDepth
  | noRangeCells
deriving DecidableEq

inductive FormulaError where
  | writing (fault : SyntaxFault)
  | reference (fault : ReferenceFault)
  | circular (address : Address)
  | function (fault : FunctionFault)
  | options (fault : OptionsFault)
deriving DecidableEq

def SyntaxFault.message : SyntaxFault → String
  | .emptyFormula => "Empty formula"
  | .missingOperator => "Missing operator between operands"
  | .missingOperatorBefore what => s!"Missing operator before '{what}'"
  | .missingOperandBefore operator => s!"Missing operand before '{operator.symbol}'"
  | .missingOperandAfter operator => s!"Missing operand after '{operator.symbol}'"
  | .missingOperand => "Missing operand"
  | .missingArgument => "Missing argument"
  | .emptyParentheses => "Empty parentheses"
  | .unmatchedOpening => "Unmatched '('"
  | .unmatchedClosing => "Unmatched ')'"
  | .unexpectedComma => "Unexpected ','"
  | .adjacentReferences => "Two cell references next to each other without an operator"
  | .unterminatedText => "Unterminated string literal"
  | .unterminatedBracket => "Unterminated '[' in cell reference"
  | .invalidNumber numeral => s!"Invalid number '{numeral}'"
  | .repeatedEquals => "Too many \"=\""
  | .unexpectedCharacter character position =>
      s!"Unexpected character '{character}' at position {Nat.repr position}"
  | .unbalancedBrackets reference => s!"Unbalanced brackets in reference '{reference}'"
  | .invalidReference reference => s!"Invalid cell reference '{reference}'"
  | .invalidReferenceAddress reference cause =>
      s!"Invalid cell reference '{reference}': {cause.message}"
  | .malformed => "Malformed expression"
  | .rangeAsValue => "A cell range can only be used as a function argument"
  | .unknownName name => s!"Unknown name '{name}'"
  | .address cause => cause.message
  | .described description => description

def ReferenceFault.message : ReferenceFault → String
  | .missingCell address => s!"Cell {address.text} does not exist"
  | .chainTooLong address limit =>
      s!"Reference chain through {address.text} is longer than {Nat.repr limit} cells"
  | .rangeTooLarge range limit =>
      s!"Range {range.text} covers {Nat.repr range.cellCount} cells, " ++
        s!"more than the limit of {Nat.repr limit}"
  | .unresolved reference => s!"Unresolved reference {reference.text}"
  | .outsideCell name => s!"{name} is only defined inside a table cell"
  | .described description => description

def FunctionFault.message : FunctionFault → String
  | .nonNumeric source => s!"Non-numeric value \"{source}\" used as a number"
  | .notReal => "Result is not a real number"
  | .overflow => "Numeric overflow"
  | .divisionByZero => "Division by zero"
  | .unknownFunction name => s!"Unknown function {name}"
  | .argumentCount function expected actual =>
      s!"Wrong number of arguments for {function}: expected {expected}, got {Nat.repr actual}"
  | .missingArgument position => s!"Missing argument {Nat.repr position}"
  | .noValues => "No values given"
  | .digitCountOutOfRange digits => s!"Digit count {Decimal.floatText digits} is out of range"
  | .negativeSquareRoot => "Square root of a negative number"
  | .nonPositiveLogarithm value => s!"Logarithm of non-positive number {value.display}"
  | .logarithmBaseOne => "Logarithm base cannot be 1"
  | .emptyDraw low high => s!"RAND_INT has no integer between {low.display} and {high.display}"
  | .drawOutOfRange => "RAND_INT bounds are out of range"
  | .described description => description

def OptionsFault.message : OptionsFault → String
  | .noDepth => "max_depth must be at least 1"
  | .noRangeCells => "max_range_cells must be at least 1"

namespace FormulaError

def message : FormulaError → String
  | .writing fault => "Syntax error: " ++ fault.message
  | .reference fault => "Reference error: " ++ fault.message
  | .circular address => s!"Circular reference: cell {address.text} refers back to itself"
  | .function fault => "Function error: " ++ fault.message
  | .options fault => "Initialization error: " ++ fault.message

def cellText (error : FormulaError) : String :=
  "!ERROR! " ++ error.message

def isCircular : FormulaError → Bool
  | .circular _ => true
  | _ => false

end FormulaError

abbrev Outcome (α : Type) := Except FormulaError α

theorem Outcome.bind_eq_ok_iff {α β : Type} {first : Outcome α} {next : α → Outcome β}
    {result : β} :
    (first >>= next) = .ok result ↔ ∃ value, first = .ok value ∧ next value = .ok result := by
  cases first with
  | error error => simp [bind, Except.bind]
  | ok value => simp [bind, Except.bind]

end Spreadsheet

import Spreadsheet.Text.Blank
import Spreadsheet.Text.Ascii
import Spreadsheet.Text.Standalone
import Spreadsheet.Text.Quoted
import Spreadsheet.AddressError
import Spreadsheet.Column
import Spreadsheet.Address
import Spreadsheet.CellRange
import Spreadsheet.Grid
import Spreadsheet.Binary64
import Spreadsheet.Decimal.Rounded
import Spreadsheet.Decimal.Shortest
import Spreadsheet.Decimal.Nearest
import Spreadsheet.Number
import Spreadsheet.Numeral
import Spreadsheet.Value
import Spreadsheet.Operator
import Spreadsheet.Reference
import Spreadsheet.FormulaError
import Spreadsheet.Arithmetic
import Spreadsheet.Reference.Written
import Spreadsheet.Token
import Spreadsheet.Token.Lexer
import Spreadsheet.Program
import Spreadsheet.Program.Parser
import Spreadsheet.Context
import Spreadsheet.Function
import Spreadsheet.Function.Arithmetic
import Spreadsheet.Function.Rounding
import Spreadsheet.Function.Transcendental
import Spreadsheet.Function.Chance
import Spreadsheet.Function.Statistics
import Spreadsheet.Function.Logic
import Spreadsheet.Function.NumberFormat
import Spreadsheet.Function.Registry
import Spreadsheet.Evaluation
import Spreadsheet.Interpolation
import Spreadsheet.Sheet.Options
import Spreadsheet.Sheet.Walk
import Spreadsheet.Sheet.Evaluation
import Spreadsheet.Sheet.Session
import Spreadsheet.Proofs.Expression
import Spreadsheet.Proofs.Grammar
import Spreadsheet.Proofs.Grammar.Acceptance
import Spreadsheet.Proofs.Sheet.Inquiry
import Spreadsheet.Proofs.Sheet.Visit
import Spreadsheet.Proofs.Sheet.Judgement
import Spreadsheet.Proofs.Grid
import Spreadsheet.Proofs.Grid.Addressing
import Spreadsheet.Proofs.Sheet.Results
import Spreadsheet.Proofs.Sheet.Approximation
import Spreadsheet.Proofs.Sheet.Recursion
import Spreadsheet.Proofs.Failure
import Spreadsheet.Proofs.Failure.Computing
import Spreadsheet.Proofs.Failure.Evaluation
import Spreadsheet.Proofs.Chance
import Spreadsheet.Proofs.Chance.Bounds
import Spreadsheet.Proofs.Sheet.References
import Spreadsheet.Proofs.Sheet.Calm
import Spreadsheet.Proofs.Sheet.Cycles
import Spreadsheet.Proofs.CellRange
import Spreadsheet.Proofs.Grammar.Unambiguous
import Spreadsheet.Proofs.StackHeight
import Spreadsheet.Proofs.Sheet.InternalErrors
import Spreadsheet.Proofs.Sheet.Course
import Spreadsheet.Proofs.Sheet.DepthLimit
import Spreadsheet.Proofs.Sheet.Consistency
import Spreadsheet.Proofs.Cutting
import Spreadsheet.Proofs.Grammar.Joining
import Spreadsheet.Proofs.Interpolation
import Spreadsheet.Proofs.Sheet.Comparison
import Spreadsheet.Proofs.Sheet.Locality
import Spreadsheet.Proofs.Sheet.SideBySide
import Spreadsheet.Proofs.Sheet.Limits
import Spreadsheet.Proofs.Numeral
import Spreadsheet.Proofs.Sheet.Freezing
import Spreadsheet.Proofs.Grammar.Inlining
import Spreadsheet.Proofs.Interchange
import Spreadsheet.Proofs.Sheet.Inlining
import Spreadsheet.Proofs.Interpolation.Plain
import Spreadsheet.Proofs.Address
import Spreadsheet.Proofs.Reference
import Spreadsheet.Proofs.Rendering
import Spreadsheet.Proofs.Sheet.Moments
import Spreadsheet.Proofs.Sheet.Counting
import Spreadsheet.Proofs.CellRange.Cursor
import Spreadsheet.Proofs.Sheet.Blocks
import Spreadsheet.Proofs.TextConstant
import Spreadsheet.Proofs.LetterCase
import Spreadsheet.Proofs.LetterCase.Cutting
import Spreadsheet.Proofs.LetterCase.Evaluation
import Spreadsheet.Proofs.Address.Spelling
import Spreadsheet.Proofs.Reference.Agreement
import Spreadsheet.Proofs.Numeral.Agreement
import Spreadsheet.Proofs.Interpolation.Rewritten
import Spreadsheet.Proofs.Arithmetic
import Spreadsheet.Proofs.Arithmetic.Calculation
import Spreadsheet.Proofs.Arithmetic.Power
import Spreadsheet.Proofs.Arithmetic.Remainder
import Spreadsheet.Proofs.Decimal
import Spreadsheet.Proofs.Binary64
import Spreadsheet.Proofs.Binary64.Nearest
import Spreadsheet.Proofs.Binary64.Whole
import Spreadsheet.Proofs.Binary64.Rounding
import Spreadsheet.Proofs.Binary64.OfInt
import Spreadsheet.Proofs.Binary64.Integer
import Spreadsheet.Proofs.Binary64.Quotient
import Spreadsheet.Proofs.Binary64.Arithmetic
import Spreadsheet.Proofs.Binary64.Rounded
import Spreadsheet.Proofs.Decimal.Trimmed
import Spreadsheet.Proofs.Arithmetic.Multiples
import Spreadsheet.Proofs.Arithmetic.Rounding
import Spreadsheet.Proofs.Statistics
import Spreadsheet.Proofs.Statistics.Order
import Spreadsheet.Proofs.Statistics.Mode
import Spreadsheet.Proofs.Registry
import Spreadsheet.Proofs.NumberFormat
import Spreadsheet.Proofs.NumberFormat.Decimals

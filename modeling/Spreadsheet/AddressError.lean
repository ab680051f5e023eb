/-!
What can be wrong with a written column, cell or block of cells. Each constructor is one cause
and carries the text it is about; `AddressError.message` is the only place that knows the words.
-/

set_option autoImplicit false

namespace Spreadsheet

inductive AddressError where
  | noLetters
  | notALetter (character : Char)
  | columnTooLarge (letters : String)
  | emptyAddress
  | missingColumn (address : String)
  /-- An address whose letters are not followed by digits up to the end. -/
  | badRow (address : String)
  | rowTooLarge (address : String)
  | rowZero (address : String)
  | missingColon (block : String)
deriving DecidableEq

def AddressError.message : AddressError → String
  | .noLetters => "Invalid cell address: empty column letters"
  | .notALetter character => s!"Invalid cell address: invalid column letter '{character}'"
  | .columnTooLarge letters => s!"Column '{letters}' is too large"
  | .emptyAddress => "Invalid cell address: empty address"
  | .missingColumn address => s!"Invalid cell address: no column letters in '{address}'"
  | .badRow address => s!"Invalid cell address: invalid row number in '{address}'"
  | .rowTooLarge address => s!"Invalid cell address: row number too large in '{address}'"
  | .rowZero address => s!"Invalid cell address: row number must be >= 1 in '{address}'"
  | .missingColon block => s!"Invalid cell range: missing ':' in '{block}'"

end Spreadsheet

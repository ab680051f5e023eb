import Spreadsheet.CellRange

/-!
References to one cell or to a block of cells.
-/

set_option autoImplicit false

namespace Spreadsheet

inductive Reference where
  | cell (address : Address)
  | range (block : CellRange)
deriving DecidableEq

namespace Reference

def addresses : Reference → List Address
  | .cell address => [address]
  | .range block => block.cells

def cellCount : Reference → Nat
  | .cell _ => 1
  | .range block => block.cellCount

def text : Reference → String
  | .cell address => address.text
  | .range block => block.text

theorem length_addresses (reference : Reference) :
    reference.addresses.length = reference.cellCount := by
  cases reference <;> simp [addresses, cellCount, CellRange.cells]

end Reference

end Spreadsheet

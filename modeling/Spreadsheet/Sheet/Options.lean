import Spreadsheet.FormulaError

/-!
Limits of an evaluation.
-/

set_option autoImplicit false

namespace Spreadsheet.Sheet

structure Options where
  /-- The most formula cells that may refer to each other in a row. -/
  maxDepth : Nat := 256
  /-- The most cells of a block that a formula may refer to. -/
  maxRangeCells : Nat := 100000
deriving DecidableEq

namespace Options

def validate (options : Options) : Outcome Unit :=
  if options.maxDepth = 0 then .error (.options .noDepth)
  else if options.maxRangeCells = 0 then .error (.options .noRangeCells)
  else .ok ()

theorem validate_eq_ok_iff (options : Options) :
    options.validate = .ok () ↔ 0 < options.maxDepth ∧ 0 < options.maxRangeCells := by
  unfold validate
  split
  · simp_all
  split
  · simp_all
  · simp only [true_iff]
    omega

end Options

end Spreadsheet.Sheet

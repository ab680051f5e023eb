import Spreadsheet.Sheet.Evaluation

/-!
Working on a sheet. A session keeps a sheet, the name by which its formulas know it, and the
limits of its evaluation, between one change and the next.
-/

set_option autoImplicit false

namespace Spreadsheet.Sheet

structure Session where
  grid : Grid String
  tableId : String
  options : Options := {}
  draws : Nat → Draws := fun _ _ => .lowest

namespace Session

def setText? (session : Session) (address : Address) (text : String) : Option Session :=
  match session.grid.get? address with
  | none => none
  | some _ => some { session with grid := session.grid.set address text }

def source (session : Session) : Source where
  grid := session.grid
  tableId := session.tableId
  options := session.options
  draws := session.draws

def evaluate (session : Session) : Grid String × Statistics :=
  evaluateWithStatistics session.source

/-- Evaluate the sheet and go on with the result in its place, and with the draws that have not been
used. -/
def feed (session : Session) : (Grid String × Statistics) × Session :=
  let result := session.evaluate
  let draws := fun computed => session.draws (result.2.cellsCalculated + computed)
  (result, { session with grid := result.1, draws })

end Session

end Spreadsheet.Sheet

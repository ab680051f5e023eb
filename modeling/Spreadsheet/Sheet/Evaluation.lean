import Spreadsheet.Sheet.Walk

/-!
Evaluating a sheet. The formula cells are computed row by row, each as the start of its own
path; every other cell is copied. The result has the shape of the sheet, and an error is shown
in the cell that it concerns. Under limits that allow nothing the result is one cell with the
reason. The main statement is that otherwise the result has the shape of the sheet.
-/

set_option autoImplicit false

namespace Spreadsheet.Sheet

inductive CellResult where
  | literal (text : String)
  | computed (outcome : Outcome Value)

namespace CellResult

def text : CellResult → String
  | .literal copied => copied
  | .computed (.ok value) => value.display
  | .computed (.error error) => error.cellText

def isComputed : CellResult → Bool
  | .literal _ => false
  | .computed _ => true

def error? : CellResult → Option FormulaError
  | .computed (.error error) => some error
  | _ => none

end CellResult

structure Statistics where
  formulaCount : Nat := 0
  /-- How many times a formula has been computed. -/
  cellsCalculated : Nat := 0
  errors : Nat := 0
  circularReferences : Nat := 0
deriving DecidableEq

namespace Source

def evaluateCell (source : Source) (cell : Address × String) : StateM Walk CellResult := do
  if isFormula cell.2 then
    let outcome ← source.visitRoot cell.1
    return .computed outcome
  else return .literal cell.2

def evaluateRow (source : Source) (row : List (Address × String)) :
    StateM Walk (List CellResult) :=
  row.mapM source.evaluateCell

/-- The results of all cells, and what the walk through the sheet knows at its end. -/
def results (source : Source) : Grid CellResult × Walk :=
  let (rows, walk) := (source.grid.addressed.rows.mapM source.evaluateRow).run Walk.start
  ({ rows }, walk)

end Source

def Statistics.ofResults (results : Grid CellResult) (walk : Walk) : Statistics :=
  let cells := results.rows.flatten
  { formulaCount := cells.countP CellResult.isComputed
    cellsCalculated := walk.computed
    errors := (cells.filterMap CellResult.error?).length
    circularReferences := (cells.filterMap CellResult.error?).countP FormulaError.isCircular }

def evaluateWithStatistics (source : Source) : Grid String × Statistics :=
  match source.options.validate with
  | .error error => (Grid.single error.cellText, {})
  | .ok _ =>
      let (results, walk) := source.results
      (results.map CellResult.text, Statistics.ofResults results walk)

def evaluate (source : Source) : Grid String :=
  (evaluateWithStatistics source).1

private theorem length_results_mapM {α β : Type} (act : α → StateM Walk β) (items : List α)
    (walk : Walk) : ((items.mapM act).run walk).1.length = items.length := by
  induction items generalizing walk with
  | nil => rfl
  | cons item rest ih =>
      rw [List.mapM_cons]
      exact congrArg Nat.succ (ih _)

theorem shape_results (source : Source) : source.results.1.shape = source.grid.shape := by
  have rows (addressed : List (List (Address × String))) (walk : Walk) :
      (((addressed.mapM source.evaluateRow).run walk).1.map List.length) =
        addressed.map List.length := by
    induction addressed generalizing walk with
    | nil => rfl
    | cons row rest ih =>
        rw [List.mapM_cons, List.map_cons, ← length_results_mapM source.evaluateCell row walk,
          ← ih]
        rfl
  rw [← Grid.shape_addressed source.grid]
  exact rows _ _

/-- Under limits that are accepted, evaluating keeps the length of every row. -/
theorem shape_evaluate {source : Source} (accepted : source.options.validate = .ok ()) :
    (evaluate source).shape = source.grid.shape := by
  rw [evaluate, evaluateWithStatistics, accepted, ← shape_results]
  exact Grid.shape_map _ _

end Spreadsheet.Sheet

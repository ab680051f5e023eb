import Spreadsheet.Evaluation
import Spreadsheet.Grid
import Spreadsheet.Interpolation
import Spreadsheet.Sheet.Options

/-!
Following references through a sheet. A walk remembers for each formula cell whether it is being
computed, on the path from where the walk started, or is settled with a result. A reference to a
cell on the path is circular. The path may have as many cells as the limit on chains says; a
failure below a chain that is too long depends on where the path started, so it is not
remembered.

`room` is how many more cells the path can take. It decreases with every cell that is entered,
and that is why a walk comes to an end whatever the sheet holds.

Each computation of a formula has draws of its own. Computations are told apart by how many there
were before, and a formula is evaluated last of all in its computation.
-/

set_option autoImplicit false

namespace Spreadsheet.Sheet

/-- What a walk knows of a formula cell. -/
inductive Progress where
  | pending
  | settled (outcome : Outcome Value)

structure Walk where
  progress : Std.TreeMap Address Progress
  computed : Nat
  /-- Has a chain been too long since the start of the path? -/
  depthLimited : Bool

structure Source where
  grid : Grid String
  tableId : String
  options : Options
  /-- The draws of the first computation of a formula, of the second, and so on. -/
  draws : Nat → Draws

/-- A step of a walk, which may fail and keeps what is known in either case. -/
abbrev Walking (α : Type) := ExceptT FormulaError (StateM Walk) α

def Walking.ofOutcome {α : Type} (outcome : Outcome α) : Walking α :=
  ExceptT.mk (pure outcome)

namespace Walk

def start : Walk :=
  { progress := {}, computed := 0, depthLimited := false }

def enter (walk : Walk) (address : Address) : Walk :=
  { walk with progress := walk.progress.insert address .pending }

/-- A cell is left with a result. It is remembered unless it failed while a chain was too
long. -/
def leave (walk : Walk) (address : Address) (outcome : Outcome Value) : Walk :=
  { walk with
    computed := walk.computed + 1
    progress :=
      if walk.depthLimited && !outcome.toBool then walk.progress.erase address
      else walk.progress.insert address (.settled outcome) }

end Walk

namespace Source

/-- The surroundings of the formulas, without the draws that each computation has of its own. -/
def context (source : Source) : Context where
  tableId := source.tableId
  rowCount := source.grid.rowCount
  columnCount := source.grid.columnCount
  current := none
  draws := fun _ => .lowest

/-- The first cell of a block, column by column, that lies outside of the sheet. -/
def firstMissing? (source : Source) (range : CellRange) : Option Address :=
  let rows := source.grid.rowCount
  let columns := source.grid.columnCount
  if range.last.row < rows && range.last.column < columns then none
  else if columns ≤ range.first.column || rows ≤ range.first.row then some range.first
  else if rows ≤ range.last.row then some { row := rows, column := range.first.column }
  else some { row := range.first.row, column := columns }

def checkRange (source : Source) (range : CellRange) : Outcome Unit :=
  match source.firstMissing? range with
  | some missing => .error (.reference (.missingCell missing))
  | none =>
      if source.options.maxRangeCells < range.cellCount then
        .error (.reference (.rangeTooLarge range source.options.maxRangeCells))
      else .ok ()

/-- What a reference stands for, given how to visit a cell. Cells of a block are visited column
by column, up to the first failure. -/
def resolveReference (source : Source) (visit : Address → Walking Value) :
    Reference → Walking Operand
  | .cell address => do
      let value ← visit address
      return .value value
  | .range block => do
      Walking.ofOutcome (source.checkRange block)
      let values ← block.cells.mapM visit
      return .range values

def programOf (formula : String) : Outcome Program :=
  Program.parse (Interpolation.rewrite formula)

def compute (source : Source) (visit : Address → Walking Value) (address : Address)
    (formula : String) : Walking Value := do
  let program ← Walking.ofOutcome (programOf formula)
  let resolved ← program.resolveWith (source.resolveReference visit)
  let walk ← get
  let context := source.context.drawing (source.draws walk.computed)
  Walking.ofOutcome (resolved.evaluate (context.withCell address))

def visit (source : Source) (room : Nat) (path : List Address) (address : Address) :
    Walking Value := ExceptT.mk fun walk =>
  match walk.progress[address]? with
  | some (.settled outcome) => (outcome, walk)
  | some .pending => (.error (.circular address), walk)
  | none =>
      if address ∈ path then (.error (.circular address), walk)
      else
        match room with
        | 0 =>
            (.error (.reference (.chainTooLong address source.options.maxDepth)),
              { walk with depthLimited := true })
        | roomBelow + 1 =>
            match source.grid.get? address with
            | none => (.error (.reference (.missingCell address)), walk)
            | some text =>
                if isFormula text then
                  let (outcome, after) :=
                    (source.compute (source.visit roomBelow (address :: path)) address text).run
                      (walk.enter address)
                  (outcome, after.leave address outcome)
                else (.ok (Value.ofLiteral text), walk)

def visitRoot (source : Source) (address : Address) (walk : Walk) : Outcome Value × Walk :=
  let (outcome, after) :=
    (source.visit source.options.maxDepth [] address).run { walk with depthLimited := false }
  (outcome, { after with depthLimited := false })

end Source

end Spreadsheet.Sheet

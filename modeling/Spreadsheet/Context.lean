import Spreadsheet.FormulaError
import Spreadsheet.Text.Ascii

/-!
The surroundings of a formula: the sheet that it belongs to, the cell that holds it, and the draws
that are still to come. Named values read these surroundings; their names may be written in either
case.

Chance is not computed here. Whoever evaluates a formula supplies the draws, and what is said of
evaluating is said of all draws. Each item of a program has a draw of its own, so no two calls of a
random function share one.
-/

set_option autoImplicit false

namespace Spreadsheet

/-- What one call of a random function is given by the generator. The generator does not show how
it comes to a number, only that the number is within the bounds that were asked for. -/
structure Draw where
  integer : Int64 → Int64 → Int64
  integer_mem : ∀ {low high : Int64}, low ≤ high →
    low ≤ integer low high ∧ integer low high ≤ high
  fraction : Float
  fraction_mem : 0.0 ≤ fraction ∧ fraction < 1.0

def Draw.lowest : Draw where
  integer low _ := low
  integer_mem ordered := ⟨Int64.le_refl _, ordered⟩
  fraction := 0.0
  fraction_mem := by decide

/-- One draw after the other. -/
abbrev Draws := Nat → Draw

structure Context where
  tableId : String
  rowCount : Nat
  columnCount : Nat
  /-- The cell that holds the formula, if one does. -/
  current : Option Address
  draws : Draws

namespace Context

def bare : Context :=
  { tableId := "", rowCount := 0, columnCount := 0, current := none, draws := fun _ => .lowest }

def withCell (context : Context) (address : Address) : Context :=
  { context with current := some address }

def drawing (context : Context) (draws : Draws) : Context :=
  { context with draws }

/-- The surroundings after some more draws. -/
def skip (context : Context) (count : Nat) : Context :=
  context.drawing fun later => context.draws (count + later)

def currentCell (context : Context) (name : String) : Outcome Address :=
  match context.current with
  | some address => .ok address
  | none => .error (.reference (.outsideCell name))

def namedValue (context : Context) (name : String) : Outcome Value :=
  match Text.upper name with
  | "TABLE_ID" => .ok (Value.ofLiteral context.tableId)
  | "NUM_ROWS" => .ok (.number (.ofCount context.rowCount))
  | "NUM_COLUMNS" => .ok (.number (.ofCount context.columnCount))
  | "ROW" => do
      let address ← context.currentCell name
      return .number (.ofCount (address.row + 1))
  | "COLUMN" => do
      let address ← context.currentCell name
      return .number (.ofCount (address.column + 1))
  | "CELL" => do
      let address ← context.currentCell name
      return .text address.text
  | "PI" => .ok (.number (.float Binary64.pi))
  | "E" => .ok (.number (.float Binary64.e))
  | _ => .error (.writing (.unknownName name))

theorem skip_zero (context : Context) : context.skip 0 = context := by
  simp only [skip, drawing, Nat.zero_add]

theorem skip_skip (context : Context) (first second : Nat) :
    (context.skip first).skip second = context.skip (first + second) := by
  simp only [skip, drawing, Nat.add_assoc]

end Context

end Spreadsheet

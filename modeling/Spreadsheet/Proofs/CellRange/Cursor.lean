import Spreadsheet.Proofs.Address
import Spreadsheet.Proofs.CellRange

/-!
Walking through a block with a cursor. The row and the column of a cursor wrap at the end of each
column, and its countdown runs beside them and stops where counting stops. The step lemma says that
a cursor which stands on one numbered cell moves to the next one; from it follows where a cursor
stands after any number of steps, and that it hands out the list of the cells.

The main statement is that the cells come down the columns with none left out, that the countdown is
the number of cells that are still to come, and that no coordinate outgrows 64 bits on the way.
-/

set_option autoImplicit false

namespace Spreadsheet

namespace CellRange

theorem cellAt_succ (range : CellRange) (number : Nat) :
    range.cellAt (number + 1) =
      if range.last.row < (range.cellAt number).row + 1 then
        { row := range.first.row, column := (range.cellAt number).column + 1 }
      else { row := (range.cellAt number).row + 1, column := (range.cellAt number).column } := by
  have positive : 0 < range.rowCount := Nat.succ_pos _
  have down : number % range.rowCount < range.rowCount := Nat.mod_lt _ positive
  have parts := Nat.mod_add_div number range.rowCount
  have rows := range.rows_ordered
  have height : range.rowCount = range.last.row - range.first.row + 1 := rfl
  have stands : (range.cellAt number).row = range.first.row + number % range.rowCount := rfl
  split
  · have whole : 0 + range.rowCount * (number / range.rowCount + 1) = number + 1 := by
      rw [Nat.mul_add, Nat.mul_one]
      omega
    obtain ⟨column, row⟩ := (Nat.div_mod_unique positive).2 ⟨whole, positive⟩
    rw [cellAt, row, column]
    rfl
  · have small : number % range.rowCount + 1 < range.rowCount := by omega
    have whole : number % range.rowCount + 1 + range.rowCount * (number / range.rowCount) =
        number + 1 := by omega
    obtain ⟨column, row⟩ := (Nat.div_mod_unique positive).2 ⟨whole, small⟩
    rw [cellAt, row, column]
    rfl

theorem drop_cells {range : CellRange} {number : Nat} (below : number < range.cellCount) :
    range.cells.drop number = range.cellAt number :: range.cells.drop (number + 1) := by
  have bounded : number < range.cells.length := by rwa [length_cells]
  rw [List.drop_eq_getElem_cons bounded]
  simp only [cells, List.getElem_map, List.getElem_range]

namespace Cursor

def rest (cursor : Cursor) : List Address :=
  match _found : cursor.next with
  | none => []
  | some (address, after) => address :: after.rest
termination_by cursor.remaining
decreasing_by
  rw [remaining_of_next _found]
  exact Nat.lt_succ_self _

/-- Where a cursor stands after it has handed out the first `number` cells. -/
def standing (range : CellRange) (number : Nat) : Cursor where
  range := range
  row := (range.cellAt number).row
  column := (range.cellAt number).column
  remaining := range.cellCount - number

theorem start_eq_standing (range : CellRange) : start range = standing range 0 := by
  simp only [start, standing, cellAt, Nat.zero_mod, Nat.zero_div, Nat.add_zero, Nat.sub_zero]

/-- One step: the numbered cell is handed out, and the cursor stands on the next one. -/
theorem next_standing (range : CellRange) (number : Nat) :
    (standing range number).next =
      if number < range.cellCount then
        some (range.cellAt number, standing range (number + 1))
      else none := by
  split
  · rename_i below
    have left : range.cellCount - number = range.cellCount - (number + 1) + 1 := by omega
    simp only [next, standing, address, moved, cellAt_succ, left]
    split <;> rfl
  · rename_i beyond
    rw [next_eq_none_iff]
    exact Nat.sub_eq_zero_of_le (Nat.le_of_not_lt beyond)

theorem rest_standing (range : CellRange) (number : Nat) :
    (standing range number).rest = range.cells.drop number := by
  generalize counted : (standing range number).remaining = left
  induction left generalizing number with
  | zero =>
      have beyond : range.cellCount ≤ number := Nat.le_of_sub_eq_zero counted
      rw [rest.eq_def, List.drop_eq_nil_of_le (by rwa [length_cells])]
      have ended := next_standing range number
      rw [if_neg (Nat.not_lt.2 beyond)] at ended
      split
      · rfl
      · rename_i found
        cases ended.symm.trans found
  | succ left ih =>
      have counts : range.cellCount - number = left + 1 := counted
      have below : number < range.cellCount := by omega
      have stepped := next_standing range number
      rw [if_pos below] at stepped
      rw [rest.eq_def, drop_cells below]
      split
      · rename_i found
        cases stepped.symm.trans found
      · rename_i found
        cases stepped.symm.trans found
        rw [ih (number + 1) (show range.cellCount - (number + 1) = left by omega)]

/-- Any number of steps hands out that many cells of the list, as far as it goes. -/
theorem take_standing {range : CellRange} (count number : Nat)
    (within : number ≤ range.cellCount) :
    (standing range number).take count =
      ((range.cells.drop number).take count,
        standing range (min (number + count) range.cellCount)) := by
  induction count generalizing number with
  | zero => rw [take, List.take_zero, Nat.add_zero, Nat.min_eq_left within]
  | succ count ih =>
      rw [take, next_standing]
      rcases Nat.lt_or_eq_of_le within with below | ended
      · rw [if_pos below, drop_cells below, List.take_succ_cons]
        simp only [ih (number + 1) below]
        rw [Nat.add_right_comm, Nat.add_assoc]
      · rw [if_neg (by omega), ended, List.drop_eq_nil_of_le (by rw [length_cells]),
          List.take_nil, Nat.min_eq_right (by omega)]

theorem rest_start (range : CellRange) : (start range).rest = range.cells := by
  rw [start_eq_standing, rest_standing, List.drop_zero]

theorem take_start (range : CellRange) (count : Nat) :
    (start range).take count =
      (range.cells.take count, standing range (min count range.cellCount)) := by
  rw [start_eq_standing, take_standing count 0 (Nat.zero_le _), List.drop_zero, Nat.zero_add]

/-- A cursor that was asked for a number of cells and has handed out the cells of a list. -/
structure Underway (range : CellRange) (count : Nat) (passed : List Address) (cursor : Cursor) :
    Prop where
  length : passed.length = min count range.cellCount
  ordered : passed.Pairwise Address.Before
  inside : ∀ address ∈ passed, range.contains address = true
  /-- No cell was left out on the way. -/
  complete : ∀ address, range.contains address = true →
    address ∈ passed ∨ ∀ earlier ∈ passed, earlier.Before address
  follows : passed ++ cursor.rest = (start range).rest
  counted : cursor.remaining = cursor.rest.length
  row_fits : cursor.row < coordinateLimit
  column_fits : cursor.column ≤ coordinateLimit

theorem underway_take (range : CellRange) (fits : range.last.Fits) (count : Nat) :
    Underway range count ((start range).take count).1 ((start range).take count).2 := by
  have within : min count range.cellCount ≤ range.cellCount := Nat.min_le_right _ _
  rw [take_start]
  refine ⟨?length, ?ordered, ?inside, ?complete, ?follows, ?counted, ?row, ?column⟩
  case length => rw [List.length_take, length_cells]
  case ordered => exact List.Pairwise.sublist (List.take_sublist _ _) range.pairwise_cells
  case inside =>
    intro address member
    obtain ⟨number, below, rfl⟩ := List.mem_map.1 (List.mem_of_mem_take member)
    exact range.contains_cellAt (List.mem_range.1 below)
  case complete => exact fun address inside => mem_cells_take_or_before inside count
  case follows =>
    rw [rest_standing, rest_start, ← length_cells, List.take_eq_take_min, List.take_append_drop]
  case counted => rw [rest_standing, List.length_drop, length_cells]; rfl
  case row =>
    have down : min count range.cellCount % range.rowCount < range.rowCount :=
      Nat.mod_lt _ (Nat.succ_pos _)
    have rows := range.rows_ordered
    have height : range.rowCount = range.last.row - range.first.row + 1 := rfl
    have bottom := fits.row
    show range.first.row + min count range.cellCount % range.rowCount < coordinateLimit
    omega
  case column =>
    have right : min count range.cellCount / range.rowCount ≤ range.columnCount :=
      Nat.div_le_of_le_mul (Nat.le_trans within (Nat.min_le_left _ _))
    have columns := range.columns_ordered
    have width : range.columnCount = range.last.column - range.first.column + 1 := rfl
    have edge := fits.column
    show range.first.column + min count range.cellCount / range.rowCount ≤ coordinateLimit
    omega

/-- The block between two addresses does not depend on their order. A cursor goes through it down
the columns and leaves no cell out; at each of its steps the countdown is the number of cells that
are still to come, and its coordinates fit in 64 bits. If the cells of the block can be counted, all
of them come, each once, and nothing else does. -/
theorem cursor_comes_down_columns (a b : Address) (fits : a.Fits) (alsoFits : b.Fits) :
    CellRange.spanning a b = CellRange.spanning b a ∧
      (∀ count, Underway (.spanning a b) count ((start (.spanning a b)).take count).1
        ((start (.spanning a b)).take count).2) ∧
      ((CellRange.spanning a b).rowCount * (CellRange.spanning a b).columnCount ≤ coordinateLimit →
        (start (.spanning a b)).rest.Pairwise Address.Before ∧
          ∀ address, address ∈ (start (.spanning a b)).rest ↔
            (CellRange.spanning a b).contains address = true) := by
  have corner : (CellRange.spanning a b).last.Fits :=
    ⟨Nat.max_lt.2 ⟨fits.row, alsoFits.row⟩, Nat.max_lt.2 ⟨fits.column, alsoFits.column⟩⟩
  refine ⟨spanning_comm a b, underway_take _ corner, fun counted => ?_⟩
  rw [rest_start]
  exact ⟨pairwise_cells _, mem_cells_iff counted⟩

/-- Four steps through two columns of three cells, from the corners in the wrong order. -/
theorem cursor_comes_down_columns_twoColumns :
    (⟨2, 0⟩ : Address).Fits ∧ (⟨0, 1⟩ : Address).Fits ∧
      CellRange.spanning ⟨2, 0⟩ ⟨0, 1⟩ = CellRange.spanning ⟨0, 1⟩ ⟨2, 0⟩ ∧
      Underway (.spanning ⟨2, 0⟩ ⟨0, 1⟩) 4 [⟨0, 0⟩, ⟨1, 0⟩, ⟨2, 0⟩, ⟨0, 1⟩]
        { range := .spanning ⟨2, 0⟩ ⟨0, 1⟩, row := 1, column := 1, remaining := 2 } ∧
      (start (.spanning ⟨2, 0⟩ ⟨0, 1⟩)).rest.Pairwise Address.Before ∧
      ∀ address, address ∈ (start (.spanning ⟨2, 0⟩ ⟨0, 1⟩)).rest ↔
        (CellRange.spanning ⟨2, 0⟩ ⟨0, 1⟩).contains address = true := by
  have fits : (⟨2, 0⟩ : Address).Fits := ⟨by decide, by decide⟩
  have alsoFits : (⟨0, 1⟩ : Address).Fits := ⟨by decide, by decide⟩
  obtain ⟨same, underway, all⟩ := cursor_comes_down_columns ⟨2, 0⟩ ⟨0, 1⟩ fits alsoFits
  exact ⟨fits, alsoFits, same, underway 4, all (by decide)⟩

end Cursor

end CellRange

end Spreadsheet

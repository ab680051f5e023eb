import Spreadsheet.Address
import Spreadsheet.Text.Ascii

/-!
Rectangular blocks of cells. A block keeps its top left and its bottom right cell, so that every
block has at least one cell. Its cells are numbered column by column, each column from top to
bottom. A cursor hands the cells out one after the other in that order: it moves down, wraps to the
top of the next column, and counts how many are left.
-/

set_option autoImplicit false

namespace Spreadsheet

open Text

/-- A block of cells between a top left and a bottom right corner, both included. -/
structure CellRange where
  first : Address
  last : Address
  rows_ordered : first.row ≤ last.row
  columns_ordered : first.column ≤ last.column
deriving DecidableEq

namespace CellRange

def spanning (a b : Address) : CellRange where
  first := { row := min a.row b.row, column := min a.column b.column }
  last := { row := max a.row b.row, column := max a.column b.column }
  rows_ordered := Nat.le_trans (Nat.min_le_left ..) (Nat.le_max_left ..)
  columns_ordered := Nat.le_trans (Nat.min_le_left ..) (Nat.le_max_left ..)

/-- Read two addresses with a colon between them. The left one is judged first. -/
def parse (source : String) : Except AddressError CellRange :=
  match cutAt ':' (trimChars source.toList) with
  | none => .error (.missingColon source)
  | some (left, right) =>
      match Address.parse (String.ofList left) with
      | .error fault => .error fault
      | .ok a =>
          match Address.parse (String.ofList right) with
          | .error fault => .error fault
          | .ok b => .ok (spanning a b)

def text (range : CellRange) : String :=
  range.first.text ++ ":" ++ range.last.text

def contains (range : CellRange) (address : Address) : Bool :=
  range.first.row ≤ address.row && address.row ≤ range.last.row &&
    range.first.column ≤ address.column && address.column ≤ range.last.column

def rowCount (range : CellRange) : Nat :=
  range.last.row - range.first.row + 1

def columnCount (range : CellRange) : Nat :=
  range.last.column - range.first.column + 1

/-- How many cells the block has. The count stops at the largest one that fits. -/
def cellCount (range : CellRange) : Nat :=
  min (range.rowCount * range.columnCount) coordinateLimit

def cellAt (range : CellRange) (number : Nat) : Address where
  row := range.first.row + number % range.rowCount
  column := range.first.column + number / range.rowCount

def cells (range : CellRange) : List Address :=
  (List.range range.cellCount).map range.cellAt

/-- A walk through a block. It stands on the cell that it hands out next and counts down, on its
own, how many cells are left. -/
structure Cursor where
  range : CellRange
  row : Nat
  column : Nat
  remaining : Nat

namespace Cursor

def start (range : CellRange) : Cursor :=
  { range, row := range.first.row, column := range.first.column, remaining := range.cellCount }

def address (cursor : Cursor) : Address :=
  { row := cursor.row, column := cursor.column }

def moved (cursor : Cursor) : Cursor :=
  if cursor.range.last.row < cursor.row + 1 then
    { cursor with row := cursor.range.first.row, column := cursor.column + 1 }
  else { cursor with row := cursor.row + 1 }

def next (cursor : Cursor) : Option (Address × Cursor) :=
  match cursor.remaining with
  | 0 => none
  | left + 1 => some (cursor.address, { cursor.moved with remaining := left })

def take : Nat → Cursor → List Address × Cursor
  | 0, cursor => ([], cursor)
  | count + 1, cursor =>
      match cursor.next with
      | none => ([], cursor)
      | some (address, rest) =>
          let (addresses, after) := take count rest
          (address :: addresses, after)

end Cursor

theorem spanning_comm (a b : Address) : spanning a b = spanning b a := by
  simp [spanning, Nat.min_comm, Nat.max_comm]

theorem spanning_first_last (range : CellRange) : spanning range.first range.last = range := by
  obtain ⟨⟨top, left⟩, ⟨bottom, right⟩, rows, columns⟩ := range
  dsimp only at rows columns
  simp only [spanning, mk.injEq, Address.mk.injEq]
  omega

theorem Cursor.remaining_of_next {cursor rest : Cursor} {address : Address}
    (h : cursor.next = some (address, rest)) : cursor.remaining = rest.remaining + 1 := by
  unfold Cursor.next at h
  split at h
  · cases h
  · rename_i left counted
    obtain ⟨-, rfl⟩ := Prod.mk.inj (Option.some.inj h)
    exact counted

theorem Cursor.next_eq_none_iff (cursor : Cursor) :
    cursor.next = none ↔ cursor.remaining = 0 := by
  unfold Cursor.next
  split
  · rename_i nothing
    exact iff_of_true rfl nothing
  · rename_i left counted
    simp only [reduceCtorEq, false_iff]
    omega

theorem contains_cellAt (range : CellRange) {number : Nat} (h : number < range.cellCount) :
    range.contains (range.cellAt number) = true := by
  have rowPositive : 0 < range.rowCount := Nat.succ_pos _
  have row : number % range.rowCount < range.rowCount := Nat.mod_lt _ rowPositive
  have column : number / range.rowCount < range.columnCount :=
    Nat.div_lt_of_lt_mul (Nat.lt_of_lt_of_le h (Nat.min_le_left ..))
  have rows := range.rows_ordered
  have columns := range.columns_ordered
  simp only [columnCount] at column
  simp only [contains, Bool.and_eq_true, decide_eq_true_eq]
  simp only [cellAt]
  generalize number % range.rowCount = down at *
  generalize number / range.rowCount = right at *
  simp only [rowCount] at row
  omega

theorem cellAt_eq_of_contains (range : CellRange) {address : Address}
    (h : range.contains address = true) :
    range.cellAt ((address.column - range.first.column) * range.rowCount +
      (address.row - range.first.row)) = address := by
  simp only [contains, Bool.and_eq_true, decide_eq_true_eq] at h
  have small : address.row - range.first.row < range.rowCount := by
    simp only [rowCount]
    omega
  have positive : 0 < range.rowCount := Nat.succ_pos _
  obtain ⟨row, column⟩ := address
  dsimp only at h small ⊢
  rw [cellAt, Address.mk.injEq]
  constructor
  · rw [Nat.mul_add_mod_self_right, Nat.mod_eq_of_lt small]
    omega
  · rw [Nat.mul_comm, Nat.mul_add_div positive, Nat.div_eq_of_lt small]
    omega

end CellRange

end Spreadsheet

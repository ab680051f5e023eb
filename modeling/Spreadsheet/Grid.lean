import Spreadsheet.Address

/-!
Grids of cells, stored row by row. The rows need not have one length: the number of columns is
that of the first row, while a cell is there when its own row reaches it. For grids whose rows
are equally long the two agree.
-/

set_option autoImplicit false

namespace Spreadsheet

structure Grid (α : Type) where
  rows : List (List α)
deriving DecidableEq

namespace Grid

variable {α : Type}

def single (content : α) : Grid α :=
  { rows := [[content]] }

def rowCount (grid : Grid α) : Nat :=
  grid.rows.length

def columnCount (grid : Grid α) : Nat :=
  match grid.rows with
  | [] => 0
  | row :: _ => row.length

def shape (grid : Grid α) : List Nat :=
  grid.rows.map List.length

/-- A grid is empty when it has no rows, or no columns in its first row. -/
def isEmpty (grid : Grid α) : Bool :=
  grid.rowCount == 0 || grid.columnCount == 0

def contains (grid : Grid α) (address : Address) : Bool :=
  address.row < grid.rowCount && address.column < grid.columnCount

def get? (grid : Grid α) (address : Address) : Option α :=
  match grid.rows[address.row]? with
  | none => none
  | some row => row[address.column]?

def addressedFrom (row column : Nat) : List α → List (Address × α)
  | [] => []
  | content :: rest => ({ row, column }, content) :: addressedFrom row (column + 1) rest

def addressedRowsFrom (row : Nat) : List (List α) → List (List (Address × α))
  | [] => []
  | contents :: rest => addressedFrom row 0 contents :: addressedRowsFrom (row + 1) rest

def addressed (grid : Grid α) : Grid (Address × α) :=
  { rows := addressedRowsFrom 0 grid.rows }

def addresses (grid : Grid α) : List Address :=
  grid.addressed.rows.flatten.map Prod.fst

def map {β : Type} (change : α → β) (grid : Grid α) : Grid β :=
  { rows := grid.rows.map (List.map change) }

/-- Replace the content of a cell. A grid without that cell stays as it is. -/
def set (grid : Grid α) (address : Address) (content : α) : Grid α :=
  { rows := grid.rows.modify address.row fun row => row.set address.column content }

theorem addressedFrom_map_snd (row column : Nat) (contents : List α) :
    (addressedFrom row column contents).map Prod.snd = contents := by
  induction contents generalizing column with
  | nil => rfl
  | cons content rest ih => simp [addressedFrom, ih]

theorem map_snd_addressed (grid : Grid α) : grid.addressed.map Prod.snd = grid := by
  have all (row : Nat) (rows : List (List α)) :
      (addressedRowsFrom row rows).map (List.map Prod.snd) = rows := by
    induction rows generalizing row with
    | nil => rfl
    | cons contents rest ih => simp [addressedRowsFrom, addressedFrom_map_snd, ih]
  cases grid
  simp [addressed, map, all]

theorem shape_map {β : Type} (change : α → β) (grid : Grid α) :
    (grid.map change).shape = grid.shape := by
  simp [shape, map, Function.comp_def]

theorem shape_addressed (grid : Grid α) : grid.addressed.shape = grid.shape := by
  rw [← shape_map Prod.snd grid.addressed, map_snd_addressed]

end Grid

end Spreadsheet

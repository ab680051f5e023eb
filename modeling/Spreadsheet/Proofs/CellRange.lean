import Spreadsheet.Reference

/-!
The cells of a block. They are listed down the columns, and as long as they can be counted the list
holds the cells that lie between the corners and no others; so what a reference lists is what it
covers. Of a block with more cells the list is cut off, and then it has as many as can be counted.
-/

set_option autoImplicit false

namespace Spreadsheet

def Address.Before (first second : Address) : Prop :=
  first.column < second.column ∨ first.column = second.column ∧ first.row < second.row

theorem Address.eq_or_before {first second : Address}
    (order : first.column < second.column ∨
      first.column = second.column ∧ first.row ≤ second.row) :
    second = first ∨ first.Before second := by
  rcases order with left | ⟨sameColumn, notLower⟩
  · exact .inr (.inl left)
  rcases Nat.lt_or_eq_of_le notLower with higher | sameRow
  · exact .inr (.inr ⟨sameColumn, higher⟩)
  · left
    rw [Address.mk.injEq]
    exact ⟨sameRow.symm, sameColumn.symm⟩

namespace CellRange

theorem contains_iff {range : CellRange} {address : Address} :
    range.contains address = true ↔
      (range.first.row ≤ address.row ∧ address.row ≤ range.last.row) ∧
        range.first.column ≤ address.column ∧ address.column ≤ range.last.column := by
  simp only [contains, Bool.and_eq_true, decide_eq_true_eq, and_assoc]

theorem number_lt_of_contains {range : CellRange} {address : Address}
    (inside : range.contains address = true) :
    (address.column - range.first.column) * range.rowCount + (address.row - range.first.row) <
      range.rowCount * range.columnCount := by
  simp only [contains, Bool.and_eq_true, decide_eq_true_eq] at inside
  have right : address.column - range.first.column + 1 ≤ range.columnCount := by
    simp only [columnCount]
    omega
  have down : address.row - range.first.row < range.rowCount := by
    simp only [rowCount]
    omega
  calc (address.column - range.first.column) * range.rowCount + (address.row - range.first.row)
      < (address.column - range.first.column) * range.rowCount + range.rowCount :=
        Nat.add_lt_add_left down _
    _ = (address.column - range.first.column + 1) * range.rowCount := (Nat.succ_mul _ _).symm
    _ ≤ range.columnCount * range.rowCount := Nat.mul_le_mul_right _ right
    _ = range.rowCount * range.columnCount := Nat.mul_comm _ _

theorem mem_cells_iff {range : CellRange}
    (counted : range.rowCount * range.columnCount ≤ coordinateLimit) (address : Address) :
    address ∈ range.cells ↔ range.contains address = true := by
  constructor
  · intro listed
    obtain ⟨number, below, same⟩ := List.mem_map.1 listed
    rw [← same]
    exact range.contains_cellAt (List.mem_range.1 below)
  · intro inside
    have below := number_lt_of_contains inside
    rw [← range.cellAt_eq_of_contains inside]
    apply List.mem_map_of_mem
    rw [List.mem_range, cellCount, Nat.min_eq_left counted]
    exact below

theorem cellAt_before (range : CellRange) {number later : Nat} (earlier : number < later) :
    (range.cellAt number).Before (range.cellAt later) := by
  rcases Nat.lt_or_eq_of_le (Nat.div_le_div_right (c := range.rowCount)
    (Nat.le_of_lt earlier)) with left | sameColumn
  · exact .inl (Nat.add_lt_add_left left _)
  · have split := Nat.div_add_mod number range.rowCount
    have splitLater := Nat.div_add_mod later range.rowCount
    rw [sameColumn] at split
    refine .inr ⟨congrArg (range.first.column + ·) sameColumn, Nat.add_lt_add_left ?_ _⟩
    omega

theorem pairwise_cells (range : CellRange) : range.cells.Pairwise Address.Before :=
  List.pairwise_map.2 (List.pairwise_lt_range.imp range.cellAt_before)

theorem length_cells (range : CellRange) : range.cells.length = range.cellCount := by
  rw [cells, List.length_map, List.length_range]

theorem exists_cellAt {range : CellRange} {address : Address}
    (inside : range.contains address = true) :
    ∃ number < range.rowCount * range.columnCount, range.cellAt number = address :=
  ⟨_, number_lt_of_contains inside, range.cellAt_eq_of_contains inside⟩

theorem mem_cells_take_or_before {range : CellRange} {address : Address}
    (inside : range.contains address = true) (count : Nat) :
    address ∈ range.cells.take count ∨
      ∀ earlier ∈ range.cells.take count, earlier.Before address := by
  obtain ⟨number, -, rfl⟩ := exists_cellAt inside
  rw [cells, ← List.map_take, List.take_range]
  rcases Nat.lt_or_ge number (min count range.cellCount) with listed | beyond
  · exact .inl (List.mem_map_of_mem (List.mem_range.2 listed))
  · right
    intro earlier member
    obtain ⟨other, below, rfl⟩ := List.mem_map.1 member
    exact range.cellAt_before (Nat.lt_of_lt_of_le (List.mem_range.1 below) beyond)

theorem nodup_cells (range : CellRange) : range.cells.Nodup :=
  range.pairwise_cells.imp fun {first second} before same => by
    subst same
    rcases before with left | ⟨-, higher⟩
    · exact Nat.lt_irrefl _ left
    · exact Nat.lt_irrefl _ higher

end CellRange

namespace Reference

/-- Does the reference name the cell, or a block in which the cell lies? -/
def covers : Reference → Address → Bool
  | .cell named, address => named == address
  | .range block, address => block.contains address

theorem covers_of_mem {target : Reference} {address : Address}
    (listed : address ∈ target.addresses) : target.covers address = true := by
  cases target with
  | cell named => exact beq_iff_eq.2 (List.mem_singleton.1 listed).symm
  | range block =>
      obtain ⟨number, below, rfl⟩ := List.mem_map.1 listed
      exact block.contains_cellAt (List.mem_range.1 below)

/-- A cell that is covered is listed, unless the list has as many cells as can be counted. -/
theorem mem_or_length_of_covers {target : Reference} {address : Address}
    (covered : target.covers address = true) :
    address ∈ target.addresses ∨ target.addresses.length = coordinateLimit := by
  cases target with
  | cell named => exact .inl (List.mem_singleton.2 (beq_iff_eq.1 covered).symm)
  | range block =>
      by_cases counted : block.rowCount * block.columnCount ≤ coordinateLimit
      · exact .inl ((CellRange.mem_cells_iff counted address).2 covered)
      · right
        rw [addresses, CellRange.length_cells, CellRange.cellCount]
        exact Nat.min_eq_right (Nat.le_of_not_le counted)

theorem nodup_addresses (target : Reference) : target.addresses.Nodup := by
  cases target with
  | cell named => exact List.pairwise_singleton _ _
  | range block => exact block.nodup_cells

end Reference

end Spreadsheet

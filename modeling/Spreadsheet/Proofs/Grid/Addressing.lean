import Spreadsheet.Proofs.Grid

/-!
Three ways to ask which cells a grid has: by the list of the addresses, by looking a cell up, and by
the bounds. The first two go by each row's own length, the bounds by the length of the first row.

The main statement is that the list is in the order of the addresses and agrees with looking up in
every grid, and that the bounds agree with both when all rows are equally long.
-/

set_option autoImplicit false

namespace Spreadsheet.Grid

variable {α : Type} {grid : Grid α}

theorem rectangular_of_equal_lengths
    (equalLengths : ∀ first ∈ grid.rows, ∀ second ∈ grid.rows, first.length = second.length) :
    grid.Rectangular := by
  intro row member
  unfold columnCount
  split
  · rename_i empty
    rw [empty] at member
    cases member
  · rename_i first rest found
    exact equalLengths row member first (found ▸ List.mem_cons_self)

theorem isEmpty_iff : grid.isEmpty = true ↔ grid.rowCount = 0 ∨ grid.columnCount = 0 := by
  rw [isEmpty, Bool.or_eq_true, beq_iff_eq, beq_iff_eq]

theorem contains_iff (address : Address) :
    grid.contains address = true ↔
      address.row < grid.rowCount ∧ address.column < grid.columnCount := by
  rw [contains, Bool.and_eq_true, decide_eq_true_eq, decide_eq_true_eq]

theorem contains_iff_isSome_get? (rectangular : grid.Rectangular) (address : Address) :
    grid.contains address = true ↔ (grid.get? address).isSome = true := by
  rw [contains_iff, ← Option.not_isNone, Bool.not_eq_true', ← Bool.not_eq_true,
    Option.isNone_iff_eq_none, get?_eq_none_iff rectangular]
  omega

theorem addresses_eq_nil_iff : grid.addresses = [] ↔ ∀ address, grid.get? address = none := by
  simp only [List.eq_nil_iff_forall_not_mem, mem_addresses_iff, Option.not_isSome_iff_eq_none]

theorem isEmpty_iff_addresses_eq_nil (rectangular : grid.Rectangular) :
    grid.isEmpty = true ↔ grid.addresses = [] := by
  simp only [isEmpty_iff, addresses_eq_nil_iff, get?_eq_none_iff rectangular]
  constructor
  · intro bounds address
    omega
  · intro missing
    have first := missing { row := 0, column := 0 }
    dsimp only at first
    omega

/-- The addresses of a grid are listed in their order, row by row, and they are exactly those at
which a cell is found. In a grid whose rows are equally long these are the addresses within the
bounds, and the grid is empty exactly when there is none. -/
theorem addressing_coherent (grid : Grid α) :
    (grid.addresses.Pairwise fun first second => compare first second = .lt) ∧
      (∀ address, address ∈ grid.addresses ↔ (grid.get? address).isSome = true) ∧
      ((∀ first ∈ grid.rows, ∀ second ∈ grid.rows, first.length = second.length) →
        (∀ address, grid.contains address = true ↔ (grid.get? address).isSome = true) ∧
          (grid.isEmpty = true ↔ grid.addresses = [])) := by
  refine ⟨grid.pairwise_addresses, grid.mem_addresses_iff, fun equalLengths => ?_⟩
  have rectangular := rectangular_of_equal_lengths equalLengths
  exact ⟨contains_iff_isSome_get? rectangular, isEmpty_iff_addresses_eq_nil rectangular⟩

def sixCells : Grid String :=
  { rows := [["a", "b", "c"], ["d", "e", "f"]] }

def noCells : Grid String :=
  { rows := [[], []] }

/-- The last of six cells, and rows without any. -/
theorem addressing_coherent_sixCells :
    (∀ first ∈ sixCells.rows, ∀ second ∈ sixCells.rows, first.length = second.length) ∧
      sixCells.addresses = [⟨0, 0⟩, ⟨0, 1⟩, ⟨0, 2⟩, ⟨1, 0⟩, ⟨1, 1⟩, ⟨1, 2⟩] ∧
      sixCells.contains ⟨1, 2⟩ = true ∧ (sixCells.get? ⟨1, 2⟩).isSome = true ∧
      (∀ first ∈ noCells.rows, ∀ second ∈ noCells.rows, first.length = second.length) ∧
      noCells.isEmpty = true ∧ noCells.addresses = [] := by
  have sixEqual :
      ∀ first ∈ sixCells.rows, ∀ second ∈ sixCells.rows, first.length = second.length := by decide
  have noneEqual :
      ∀ first ∈ noCells.rows, ∀ second ∈ noCells.rows, first.length = second.length := by decide
  have within : sixCells.contains ⟨1, 2⟩ = true := rfl
  have empty : noCells.isEmpty = true := rfl
  obtain ⟨-, -, six⟩ := addressing_coherent sixCells
  obtain ⟨-, -, none⟩ := addressing_coherent noCells
  exact ⟨sixEqual, rfl, within, ((six sixEqual).1 _).1 within, noneEqual, empty,
    (none noneEqual).2.1 empty⟩

/-- In a ragged grid the bounds leave a cell out when its row is longer than the first one. -/
example :
    let ragged : Grid String := ⟨[[], ["a"]]⟩
    ragged.addresses = [⟨1, 0⟩] ∧ ragged.contains ⟨1, 0⟩ = false ∧ ragged.isEmpty = true := by
  decide

end Spreadsheet.Grid

import Mathlib.Data.List.Forall2
import Spreadsheet.Grid

/-!
Looking cells up. Listing the cells of a grid with their addresses lists each cell once, under the
address at which it is looked up and row by row, in grids with rows of any lengths. Two grids are
related when they have one shape and their cells are related at each address.
-/

set_option autoImplicit false

namespace Spreadsheet.Grid

variable {α β : Type}

theorem getElem?_addressedFrom (row column position : Nat) (contents : List α) :
    (addressedFrom row column contents)[position]? =
      contents[position]?.map fun content => ({ row, column := column + position }, content) := by
  induction contents generalizing column position with
  | nil => rfl
  | cons content rest ih =>
      rw [addressedFrom]
      cases position with
      | zero => rfl
      | succ position =>
          rw [List.getElem?_cons_succ, List.getElem?_cons_succ, ih, Nat.add_assoc,
            Nat.add_comm 1 position]

theorem getElem?_addressedRowsFrom (row position : Nat) (rows : List (List α)) :
    (addressedRowsFrom row rows)[position]? =
      rows[position]?.map (addressedFrom (row + position) 0) := by
  induction rows generalizing row position with
  | nil => rfl
  | cons contents rest ih =>
      rw [addressedRowsFrom]
      cases position with
      | zero => rfl
      | succ position =>
          rw [List.getElem?_cons_succ, List.getElem?_cons_succ, ih, Nat.add_assoc,
            Nat.add_comm 1 position]

theorem get?_addressed (grid : Grid α) (address : Address) :
    grid.addressed.get? address = (grid.get? address).map fun content => (address, content) := by
  rw [get?, get?, addressed, getElem?_addressedRowsFrom, Nat.zero_add]
  cases grid.rows[address.row]? with
  | none => rfl
  | some contents =>
      rw [Option.map_some]
      dsimp only
      rw [getElem?_addressedFrom, Nat.zero_add]

theorem get?_map (change : α → β) (grid : Grid α) (address : Address) :
    (grid.map change).get? address = (grid.get? address).map change := by
  rw [get?, get?, map, List.getElem?_map]
  cases grid.rows[address.row]? with
  | none => rfl
  | some contents => exact List.getElem?_map

def Rectangular (grid : Grid α) : Prop :=
  ∀ row ∈ grid.rows, row.length = grid.columnCount

theorem get?_eq_none_iff {grid : Grid α} (rectangular : grid.Rectangular) (address : Address) :
    grid.get? address = none ↔
      grid.rowCount ≤ address.row ∨ grid.columnCount ≤ address.column := by
  rw [get?]
  cases found : grid.rows[address.row]? with
  | none => exact iff_of_true rfl (.inl (List.getElem?_eq_none_iff.1 found))
  | some row =>
      obtain ⟨inside, -⟩ := List.getElem?_eq_some_iff.1 found
      have width := rectangular row (List.mem_of_getElem? found)
      rw [List.getElem?_eq_none_iff, width]
      exact (or_iff_right (Nat.not_le.2 inside)).symm

theorem mem_flatten_of_get? {grid : Grid α} {address : Address} {content : α}
    (there : grid.get? address = some content) : content ∈ grid.rows.flatten := by
  unfold get? at there
  split at there
  · cases there
  · rename_i row found
    exact List.mem_flatten.2 ⟨row, List.mem_of_getElem? found, List.mem_of_getElem? there⟩

theorem exists_get?_of_mem_flatten {grid : Grid α} {content : α}
    (member : content ∈ grid.rows.flatten) : ∃ address, grid.get? address = some content := by
  obtain ⟨row, listed, inside⟩ := List.mem_flatten.1 member
  obtain ⟨index, found⟩ := List.mem_iff_getElem?.1 listed
  obtain ⟨column, there⟩ := List.mem_iff_getElem?.1 inside
  exact ⟨⟨index, column⟩, by rw [get?, found]; exact there⟩

theorem get?_of_mem_addressed {grid : Grid α} {cell : Address × α}
    (member : cell ∈ grid.addressed.rows.flatten) : grid.get? cell.1 = some cell.2 := by
  obtain ⟨cells, listed, inside⟩ := List.mem_flatten.1 member
  obtain ⟨row, foundRow⟩ := List.mem_iff_getElem?.1 listed
  obtain ⟨column, found⟩ := List.mem_iff_getElem?.1 inside
  rw [addressed, getElem?_addressedRowsFrom, Option.map_eq_some_iff] at foundRow
  obtain ⟨contents, there, rfl⟩ := foundRow
  rw [getElem?_addressedFrom, Option.map_eq_some_iff] at found
  obtain ⟨content, stored, rfl⟩ := found
  simp only [get?, Nat.zero_add, there, stored]

private theorem place_of_mem {row column : Nat} {contents : List α} :
    ∀ cell ∈ addressedFrom row column contents, cell.1.row = row ∧ column ≤ cell.1.column := by
  induction contents generalizing column with
  | nil => exact List.forall_mem_nil _
  | cons content rest ih =>
      rw [addressedFrom, List.forall_mem_cons]
      exact ⟨⟨rfl, Nat.le_refl column⟩, fun cell member =>
        (ih cell member).imp id (Nat.le_trans (Nat.le_succ column))⟩

private theorem row_le_of_mem {row : Nat} {rows : List (List α)} :
    ∀ cell ∈ (addressedRowsFrom row rows).flatten, row ≤ cell.1.row := by
  induction rows generalizing row with
  | nil => exact List.forall_mem_nil _
  | cons contents rest ih =>
      intro cell member
      rw [addressedRowsFrom, List.flatten_cons, List.mem_append] at member
      rcases member with first | later
      · exact Nat.le_of_eq (place_of_mem cell first).1.symm
      · exact Nat.le_trans (Nat.le_succ row) (ih cell later)

private theorem pairwise_addressedFrom (row column : Nat) (contents : List α) :
    ((addressedFrom row column contents).map Prod.fst).Pairwise
      fun first second => compare first second = .lt := by
  induction contents generalizing column with
  | nil => exact List.Pairwise.nil
  | cons content rest ih =>
      rw [addressedFrom, List.map_cons, List.pairwise_cons]
      refine ⟨fun address later => ?_, ih (column + 1)⟩
      obtain ⟨cell, member, rfl⟩ := List.mem_map.1 later
      obtain ⟨sameRow, right⟩ := place_of_mem cell member
      exact (Address.compare_eq_lt_iff _ _).2 (.inr ⟨sameRow.symm, right⟩)

/-- The list of the addresses goes along the rows, each address behind those before it. -/
theorem pairwise_addresses (grid : Grid α) :
    grid.addresses.Pairwise fun first second => compare first second = .lt := by
  have all (row : Nat) (rows : List (List α)) :
      ((addressedRowsFrom row rows).flatten.map Prod.fst).Pairwise
        fun first second => compare first second = .lt := by
    induction rows generalizing row with
    | nil => exact List.Pairwise.nil
    | cons contents rest ih =>
        rw [addressedRowsFrom, List.flatten_cons, List.map_append, List.pairwise_append]
        refine ⟨pairwise_addressedFrom row 0 contents, ih (row + 1), ?_⟩
        intro first inside second later
        obtain ⟨cell, member, rfl⟩ := List.mem_map.1 inside
        obtain ⟨other, below, rfl⟩ := List.mem_map.1 later
        have lower := row_le_of_mem other below
        rw [← (place_of_mem cell member).1] at lower
        exact (Address.compare_eq_lt_iff _ _).2 (.inl lower)
  exact all 0 grid.rows

theorem nodup_addresses (grid : Grid α) : grid.addresses.Nodup :=
  grid.pairwise_addresses.imp fun less same => by
    rw [same, Std.ReflOrd.compare_self] at less
    cases less

theorem mem_addresses_iff (grid : Grid α) (address : Address) :
    address ∈ grid.addresses ↔ (grid.get? address).isSome = true := by
  rw [Option.isSome_iff_exists]
  constructor
  · intro listed
    obtain ⟨cell, member, rfl⟩ := List.mem_map.1 listed
    exact ⟨cell.2, get?_of_mem_addressed member⟩
  · rintro ⟨content, there⟩
    have addressed : grid.addressed.get? address = some (address, content) := by
      rw [get?_addressed, there]
      rfl
    exact List.mem_map.2 ⟨_, mem_flatten_of_get? addressed, rfl⟩

def Related (relation : α → β → Prop) (left : Grid α) (right : Grid β) : Prop :=
  List.Forall₂ (List.Forall₂ relation) left.rows right.rows

private theorem rel_getElem? {γ δ : Type} {relation : γ → δ → Prop} {left : List γ}
    {right : List δ} (related : List.Forall₂ relation left right) (position : Nat) :
    Option.Rel relation left[position]? right[position]? := by
  induction related generalizing position with
  | nil => exact .none
  | cons head tail ih =>
      cases position with
      | zero => exact .some head
      | succ position => exact ih position

theorem related_self {relation : α → α → Prop} (self : ∀ content, relation content content)
    (grid : Grid α) : Related relation grid grid :=
  List.forall₂_same.2 fun _ _ => List.forall₂_same.2 fun content _ => self content

theorem Related.get? {relation : α → β → Prop} {left : Grid α} {right : Grid β}
    (related : Related relation left right) (address : Address) :
    Option.Rel relation (left.get? address) (right.get? address) := by
  have rows := rel_getElem? related address.row
  rw [Grid.get?, Grid.get?]
  generalize left.rows[address.row]? = leftRow at rows ⊢
  generalize right.rows[address.row]? = rightRow at rows ⊢
  cases rows with
  | none => exact .none
  | some row => exact rel_getElem? row address.column

private theorem forall₂_of_getElem? {γ δ : Type} {relation : γ → δ → Prop} {left : List γ}
    {right : List δ}
    (related : ∀ position : Nat, Option.Rel relation left[position]? right[position]?) :
    List.Forall₂ relation left right := by
  induction left generalizing right with
  | nil =>
      cases right with
      | nil => exact .nil
      | cons content rest => cases related 0
  | cons first others ih =>
      cases right with
      | nil => cases related 0
      | cons content rest =>
          have follows := ih fun position => related (position + 1)
          cases related 0 with
          | some head => exact .cons head follows

theorem related_of_get? {relation : α → β → Prop} {left : Grid α} {right : Grid β}
    (shape : left.shape = right.shape)
    (related : ∀ address, Option.Rel relation (left.get? address) (right.get? address)) :
    Related relation left right := by
  refine forall₂_of_getElem? fun row => ?_
  have lengths := congrArg (fun lengths : List Nat => lengths[row]?) shape
  simp only [Grid.shape, List.getElem?_map] at lengths
  have contents (column : Nat) := related { row, column }
  simp only [Grid.get?] at contents
  generalize left.rows[row]? = leftRow at lengths contents ⊢
  generalize right.rows[row]? = rightRow at lengths contents ⊢
  cases leftRow with
  | none =>
      cases rightRow with
      | none => exact .none
      | some row => cases lengths
  | some first =>
      cases rightRow with
      | none => cases lengths
      | some second => exact .some (forall₂_of_getElem? contents)

theorem map_eq_of_related {γ : Type} {first : α → γ} {second : β → γ} {left : Grid α}
    {right : Grid β} (related : Related (fun content other => first content = second other) left
      right) : left.map first = right.map second := by
  have each {row : List α} {other : List β}
      (same : List.Forall₂ (fun content other => first content = second other) row other) :
      row.map first = other.map second := by
    rw [← List.forall₂_eq_eq_eq, List.forall₂_map_left_iff, List.forall₂_map_right_iff]
    exact same
  rw [map, map, Grid.mk.injEq, ← List.forall₂_eq_eq_eq, List.forall₂_map_left_iff,
    List.forall₂_map_right_iff]
  exact List.Forall₂.imp (fun _ _ same => each same) related

theorem shape_set (grid : Grid α) (address : Address) (content : α) :
    (grid.set address content).shape = grid.shape := by
  apply List.ext_getElem?
  intro row
  rw [shape, shape, set, List.getElem?_map, List.getElem?_map, List.getElem?_modify]
  cases grid.rows[row]? with
  | none => rfl
  | some contents =>
      simp only [Option.map_eq_map, Option.map_some]
      split
      · rw [List.length_set]
      · rfl

theorem get?_set_self {grid : Grid α} {address : Address} {content old : α}
    (there : grid.get? address = some old) :
    (grid.set address content).get? address = some content := by
  unfold get? at there ⊢
  rw [set, List.getElem?_modify_eq]
  split at there
  · cases there
  · rename_i row found
    rw [found]
    obtain ⟨inside, -⟩ := List.getElem?_eq_some_iff.1 there
    exact List.getElem?_set_self inside

theorem get?_set_of_ne {address asked : Address} (other : asked ≠ address) (grid : Grid α)
    (content : α) : (grid.set address content).get? asked = grid.get? asked := by
  rw [get?, get?, set, List.getElem?_modify]
  cases grid.rows[asked.row]? with
  | none => rfl
  | some contents =>
      rw [Option.map_eq_map, Option.map_some]
      dsimp only
      split
      · rename_i sameRow
        have otherColumn : address.column ≠ asked.column := by
          intro sameColumn
          apply other
          cases asked
          cases address
          cases sameRow
          cases sameColumn
          rfl
        exact List.getElem?_set_ne otherColumn
      · rfl

end Spreadsheet.Grid

import Spreadsheet.Proofs.CellRange
import Spreadsheet.Proofs.Sheet.Visit

/-!
What a reference to a block stands for. Before any cell of the block is visited its corners are
compared with the edges of the sheet: in a rectangular sheet this finds the first missing cell
without a search, however large the block is. Then its size is checked, and only then its cells are
visited, down the columns and up to the first failure.

The main statement lists these three cases, with what each leaves of the memory.
-/

set_option autoImplicit false

namespace Spreadsheet.Sheet

namespace Source

variable {source : Source} {block : CellRange}

/-- The first cell of a block, down the columns, that the sheet does not have. -/
structure FirstMissing (source : Source) (block : CellRange) (missing : Address) : Prop where
  inside : block.contains missing = true
  absent : source.grid.get? missing = none
  first : ∀ other, block.contains other = true → source.grid.get? other = none →
    other = missing ∨ missing.Before other

def HasBlock (source : Source) (block : CellRange) : Prop :=
  ∀ address, block.contains address = true → source.grid.get? address ≠ none

section Corners

variable (rectangular : source.grid.Rectangular)

include rectangular

theorem firstMissing_of_le {missing : Address} (inside : block.contains missing = true)
    (absent : source.grid.rowCount ≤ missing.row ∨ source.grid.columnCount ≤ missing.column)
    (least : ∀ other, block.contains other = true →
      source.grid.rowCount ≤ other.row ∨ source.grid.columnCount ≤ other.column →
        missing.column < other.column ∨
          missing.column = other.column ∧ missing.row ≤ other.row) :
    source.FirstMissing block missing where
  inside := inside
  absent := (Grid.get?_eq_none_iff rectangular missing).2 absent
  first other found otherAbsent :=
    Address.eq_or_before
      (least other found ((Grid.get?_eq_none_iff rectangular other).1 otherAbsent))

/-- Comparing corners and edges finds the cell that a search down the columns would find. -/
theorem firstMissing_of_firstMissing? {missing : Address}
    (found : source.firstMissing? block = some missing) : source.FirstMissing block missing := by
  have rows := block.rows_ordered
  have columns := block.columns_ordered
  have covers (address : Address) :
      block.contains address = true ↔
        (block.first.row ≤ address.row ∧ address.row ≤ block.last.row) ∧
          block.first.column ≤ address.column ∧ address.column ≤ block.last.column :=
    CellRange.contains_iff
  unfold firstMissing? at found
  dsimp only at found
  split at found
  · cases found
  rename_i outside
  rw [Bool.and_eq_true, decide_eq_true_eq, decide_eq_true_eq] at outside
  split at found
  · rename_i start
    rw [Bool.or_eq_true, decide_eq_true_eq, decide_eq_true_eq] at start
    cases found
    refine firstMissing_of_le rectangular ?_ start.symm fun other inside _ => ?_
    · rw [covers]
      omega
    · rw [covers] at inside
      omega
  rename_i start
  rw [Bool.or_eq_true, decide_eq_true_eq, decide_eq_true_eq] at start
  split at found
  · rename_i below
    cases found
    refine firstMissing_of_le rectangular ?_ (.inl (Nat.le_refl _)) fun other inside absent => ?_
    · rw [covers]
      dsimp only
      omega
    · rw [covers] at inside
      dsimp only
      omega
  · rename_i within
    cases found
    refine firstMissing_of_le rectangular ?_ (.inr (Nat.le_refl _)) fun other inside absent => ?_
    · rw [covers]
      dsimp only
      omega
    · rw [covers] at inside
      dsimp only
      omega

theorem hasBlock_of_firstMissing? (found : source.firstMissing? block = none) :
    source.HasBlock block := by
  intro address inside absent
  rw [CellRange.contains_iff] at inside
  rw [Grid.get?_eq_none_iff rectangular] at absent
  unfold firstMissing? at found
  dsimp only at found
  split at found
  · rename_i corner
    rw [Bool.and_eq_true, decide_eq_true_eq, decide_eq_true_eq] at corner
    omega
  · split at found
    · cases found
    · split at found <;> cases found

theorem exists_firstMissing {address : Address} (inside : block.contains address = true)
    (absent : source.grid.get? address = none) :
    ∃ missing, source.firstMissing? block = some missing := by
  cases found : source.firstMissing? block with
  | none => exact absurd absent (hasBlock_of_firstMissing? rectangular found address inside)
  | some missing => exact ⟨missing, rfl⟩

theorem HasBlock.firstMissing?_eq_none (there : source.HasBlock block) :
    source.firstMissing? block = none := by
  cases found : source.firstMissing? block with
  | none => rfl
  | some missing =>
      have first := firstMissing_of_firstMissing? rectangular found
      exact absurd first.absent (there missing first.inside)

theorem HasBlock.size_le (there : source.HasBlock block) :
    block.rowCount * block.columnCount ≤ source.grid.rowCount * source.grid.columnCount := by
  have corner : block.contains block.last = true :=
    CellRange.contains_iff.2 ⟨⟨block.rows_ordered, Nat.le_refl _⟩, block.columns_ordered,
      Nat.le_refl _⟩
  have present := there block.last corner
  rw [ne_eq, Grid.get?_eq_none_iff rectangular, not_or, Nat.not_le, Nat.not_le] at present
  apply Nat.mul_le_mul
  · show block.last.row - block.first.row + 1 ≤ source.grid.rowCount
    omega
  · show block.last.column - block.first.column + 1 ≤ source.grid.columnCount
    omega

end Corners

/-- Cells that are visited in turn with success: the memory before, a value for each cell, and the
memory after. -/
inductive Passes (visit : Address → Walking Value) :
    List Address → Walk → List Value → Walk → Prop
  | done (walk : Walk) : Passes visit [] walk [] walk
  | next {address : Address} {rest : List Address} {walk between after : Walk} {value : Value}
      {values : List Value} (found : (visit address).run walk = (.ok value, between))
      (others : Passes visit rest between values after) :
      Passes visit (address :: rest) walk (value :: values) after

theorem Passes.length_eq {visit : Address → Walking Value} {cells : List Address}
    {walk after : Walk} {values : List Value} (passes : Passes visit cells walk values after) :
    values.length = cells.length := by
  induction passes with
  | done walk => rfl
  | next found others ih => rw [List.length_cons, List.length_cons, ih]

/-- What visiting cells in turn comes to, and the memory after. -/
inductive InTurn (visit : Address → Walking Value) (cells : List Address) (walk : Walk) :
    Outcome (List Value) → Walk → Prop
  | all {values : List Value} {after : Walk} (passes : Passes visit cells walk values after) :
      InTurn visit cells walk (.ok values) after
  /-- The cells behind the one that fails are not visited. -/
  | stopped {front behind : List Address} {failing : Address} {values : List Value}
      {between after : Walk} {error : FormulaError} (split : cells = front ++ failing :: behind)
      (passes : Passes visit front walk values between)
      (failed : (visit failing).run between = (.error error, after)) :
      InTurn visit cells walk (.error error) after

theorem InTurn.next {visit : Address → Walking Value} {address : Address} {rest : List Address}
    {walk between after : Walk} {value : Value} {outcome : Outcome (List Value)}
    (found : (visit address).run walk = (.ok value, between))
    (others : InTurn visit rest between outcome after) :
    InTurn visit (address :: rest) walk (outcome.map (value :: ·)) after := by
  cases others with
  | all passes => exact .all (.next found passes)
  | @stopped front _ _ _ _ _ _ split passes failed =>
      exact .stopped (show _ = (address :: front) ++ _ from congrArg (address :: ·) split)
        (.next found passes) failed

theorem inTurn_mapM (visit : Address → Walking Value) (cells : List Address) (walk : Walk) :
    InTurn visit cells walk ((cells.mapM visit).run walk).1 ((cells.mapM visit).run walk).2 := by
  induction cells generalizing walk with
  | nil => exact .all (.done walk)
  | cons address rest ih =>
      rw [List.mapM_cons, Walking.run_bind]
      rcases found : (visit address).run walk with ⟨outcome, between⟩
      cases outcome with
      | error error => exact .stopped (show _ = [] ++ _ from rfl) (.done walk) found
      | ok value =>
          have others := InTurn.next found (ih between)
          dsimp only
          rw [Walking.run_bind]
          generalize (rest.mapM visit).run between = restFound at others ⊢
          rcases restFound with ⟨restOutcome, after⟩
          cases restOutcome <;> exact others

theorem run_resolveReference_range (visit : Address → Walking Value) (walk : Walk) :
    (source.resolveReference visit (.range block)).run walk =
      match source.checkRange block with
      | .error error => (.error error, walk)
      | .ok _ =>
          (((block.cells.mapM visit).run walk).1.map Operand.range,
            ((block.cells.mapM visit).run walk).2) := by
  have checked : (Walking.ofOutcome (source.checkRange block)).run walk =
      (source.checkRange block, walk) := rfl
  rw [resolveReference, Walking.run_bind, checked]
  cases source.checkRange block with
  | error error => rfl
  | ok _ =>
      dsimp only
      rw [Walking.run_bind]
      rcases (block.cells.mapM visit).run walk with ⟨outcome, after⟩
      cases outcome <;> rfl

/-- What a reference to a block comes to in a rectangular sheet, by whatever way its cells are
visited; a sheet in memory has no more cells than 64 bits can count. A missing cell is reported
first, the first one down the columns, and then a block of more cells than the limit; both leave the
memory as it was. Otherwise the cells of the block are visited down the columns, and either each of
them gives one value or the first that fails gives its error. -/
theorem block_resolved (rectangular : source.grid.Rectangular)
    (counted : source.grid.rowCount * source.grid.columnCount ≤ coordinateLimit)
    (visit : Address → Walking Value) (block : CellRange) (walk : Walk) :
    ((∃ address, block.contains address = true ∧ source.grid.get? address = none) →
      ∃ missing, source.FirstMissing block missing ∧
        (source.resolveReference visit (.range block)).run walk =
          (.error (.reference (.missingCell missing)), walk)) ∧
    (source.HasBlock block →
      (source.options.maxRangeCells < block.rowCount * block.columnCount →
        (source.resolveReference visit (.range block)).run walk =
          (.error (.reference (.rangeTooLarge block source.options.maxRangeCells)), walk)) ∧
      (block.rowCount * block.columnCount ≤ source.options.maxRangeCells →
        block.cells.Pairwise Address.Before ∧
        (∀ address, address ∈ block.cells ↔ block.contains address = true) ∧
        ∃ outcome after, InTurn visit block.cells walk outcome after ∧
          (∀ values, outcome = .ok values →
            values.length = block.rowCount * block.columnCount) ∧
          (source.resolveReference visit (.range block)).run walk =
            (outcome.map Operand.range, after))) := by
  rw [run_resolveReference_range]
  constructor
  · rintro ⟨address, inside, absent⟩
    obtain ⟨missing, found⟩ := exists_firstMissing rectangular inside absent
    refine ⟨missing, firstMissing_of_firstMissing? rectangular found, ?_⟩
    rw [checkRange, found]
  intro there
  have noneMissing := there.firstMissing?_eq_none rectangular
  have small := Nat.le_trans (there.size_le rectangular) counted
  have size : block.cellCount = block.rowCount * block.columnCount := Nat.min_eq_left small
  rw [checkRange, noneMissing, size]
  constructor
  · intro tooLarge
    dsimp only
    rw [if_pos tooLarge]
  · intro allowed
    have inTurn := inTurn_mapM visit block.cells walk
    refine ⟨block.pairwise_cells, CellRange.mem_cells_iff small, _, _, inTurn, ?_, ?_⟩
    · intro values succeeded
      rw [succeeded] at inTurn
      cases inTurn with
      | all passes => rw [passes.length_eq, CellRange.length_cells, size]
    · dsimp only
      rw [if_neg (Nat.not_lt.2 allowed)]

/-- A failing formula at the top of the second column, and blocks of at most three cells. -/
def cornerSheet : Source where
  grid := { rows := [["1", "=1/0"], ["=A1+1", "x"]] }
  tableId := "corner"
  options := { maxDepth := 5, maxRangeCells := 3 }
  draws _ _ := .lowest

theorem block_resolved_cornerSheet :
    cornerSheet.grid.Rectangular ∧
    (∃ missing, cornerSheet.FirstMissing (.spanning ⟨0, 0⟩ ⟨2, 2⟩) missing ∧
      (cornerSheet.resolveReference (cornerSheet.visit 5 [])
        (.range (.spanning ⟨0, 0⟩ ⟨2, 2⟩))).run Walk.start =
          (.error (.reference (.missingCell missing)), Walk.start)) ∧
    (cornerSheet.resolveReference (cornerSheet.visit 5 [])
      (.range (.spanning ⟨0, 0⟩ ⟨1, 1⟩))).run Walk.start =
        (.error (.reference (.rangeTooLarge (.spanning ⟨0, 0⟩ ⟨1, 1⟩) 3)), Walk.start) ∧
    (∃ after, InTurn (cornerSheet.visit 5 []) [⟨0, 0⟩, ⟨1, 0⟩] Walk.start
      (.ok [.int 1, .int 2]) after) ∧
    ∃ after, InTurn (cornerSheet.visit 5 []) [⟨0, 1⟩, ⟨1, 1⟩] Walk.start
      (.error (.function .divisionByZero)) after := by
  have rectangular : cornerSheet.grid.Rectangular := by
    unfold Grid.Rectangular
    decide
  have resolved := block_resolved rectangular (by decide) (cornerSheet.visit 5 [])
  have inTurn (block : CellRange) (noneMissing : cornerSheet.firstMissing? block = none)
      (allowed : block.rowCount * block.columnCount ≤ 3) (outcome : Outcome (List Value))
      (found : ((cornerSheet.resolveReference (cornerSheet.visit 5 []) (.range block)).run
        Walk.start).1 = outcome.map Operand.range) :
      ∃ after, InTurn (cornerSheet.visit 5 []) block.cells Walk.start outcome after := by
    have there := hasBlock_of_firstMissing? rectangular noneMissing
    obtain ⟨-, -, other, after, turn, -, run⟩ := ((resolved block Walk.start).2 there).2 allowed
    rw [run] at found
    refine ⟨after, ?_⟩
    cases other with
    | error error => cases outcome <;> cases found; exact turn
    | ok values => cases outcome <;> cases found; exact turn
  refine ⟨rectangular, ?_, ?_, ?_, ?_⟩
  · exact (resolved (.spanning ⟨0, 0⟩ ⟨2, 2⟩) Walk.start).1 ⟨⟨2, 0⟩, by decide, by decide⟩
  · have there : cornerSheet.HasBlock (.spanning ⟨0, 0⟩ ⟨1, 1⟩) :=
      hasBlock_of_firstMissing? rectangular (by decide)
    exact ((resolved _ Walk.start).2 there).1 (by decide)
  · exact inTurn (.spanning ⟨0, 0⟩ ⟨1, 0⟩) (by decide) (by decide) (.ok [.int 1, .int 2])
      (by decide +kernel)
  · exact inTurn (.spanning ⟨0, 1⟩ ⟨1, 1⟩) (by decide) (by decide)
      (.error (.function .divisionByZero)) (by decide +kernel)

end Source

end Spreadsheet.Sheet

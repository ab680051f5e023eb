import Spreadsheet.Proofs.Sheet.Comparison
import Spreadsheet.Proofs.Sheet.Recursion

/-!
A result depends on what can be reached. Two sheets of one shape that hold the same in a cell and in
all cells that its references lead to have the same results from below in all these cells, round by
round: each of them asks for cells of the same kind only.

The main statement says so of evaluations. Changes elsewhere make no difference to a cell, although
they make other walks and other memories, and although there may be new circles through the cell's
own references.
-/

set_option autoImplicit false

namespace Spreadsheet

theorem Grid.rowCount_eq_of_shape {α β : Type} {left : Grid α} {right : Grid β}
    (same : left.shape = right.shape) : left.rowCount = right.rowCount := by
  have lengths := congrArg List.length same
  rw [shape, shape, List.length_map, List.length_map] at lengths
  exact lengths

theorem Grid.columnCount_eq_of_shape {α β : Type} {left : Grid α} {right : Grid β}
    (same : left.shape = right.shape) : left.columnCount = right.columnCount := by
  obtain ⟨leftRows⟩ := left
  obtain ⟨rightRows⟩ := right
  cases leftRows with
  | nil =>
      cases rightRows with
      | nil => rfl
      | cons row rest => cases same
  | cons row rest =>
      cases rightRows with
      | nil => cases same
      | cons other others => exact List.head_eq_of_cons_eq same

namespace Sheet.Source

open Relation (ReflTransGen)

variable {source other : Source}

theorem approximation_eq_of_agree {address : Address} (same : SameSurroundings source other)
    (limit : source.options.maxRangeCells = other.options.maxRangeCells)
    (agree : ∀ reached, ReflTransGen source.RefersTo address reached →
      source.grid.get? reached = other.grid.get? reached) (round : Nat) {reached : Address}
    (leads : ReflTransGen source.RefersTo address reached) :
    source.approximation round reached = other.approximation round reached := by
  induction round generalizing reached with
  | zero => rfl
  | succ round ih =>
      rw [approximation, approximation, resultOf, resultOf, ← agree reached leads]
      split
      · rfl
      rename_i text content
      split
      · rename_i formula
        have yields : (source.inquiry reached text).Yields (Mentions text) (fun _ _ => True) _ :=
          yields_inquiry reached fun _ asks => asks.mentions
        rw [outcomeOf_eq_answer, outcomeOf_eq_answer, ← same.inquiry_eq limit]
        apply yields.answer_congr
        intro asked mentions
        exact ih (leads.tail ⟨text, ⟨content, formula⟩, mentions⟩)
      · rfl

theorem yields_asksFor {draws : Draws} {address : Address} {formula : String}
    (present : source.FormulaAt address formula) :
    (source.drawnInquiry draws address formula).Yields (source.AsksFor address) (fun _ _ => True)
      (fun _ => True) :=
  (yields_inquiry address fun _ asks => ⟨formula, present, asks⟩).mono fun _ _ => trivial

mutual

/-- A visit changes what is remembered of cells only that are asked for on the way. -/
theorem Visits.changes {room : Nat} {path : List Address} {address : Address} {walk after : Walk}
    {outcome : Outcome Value} (changed : Address) :
    source.Visits room path address walk outcome after →
      after.progress[changed]? = walk.progress[changed]? ∨
        ReflTransGen source.AsksFor address changed
  | .settled _ => .inl rfl
  | .pending _ => .inl rfl
  | .circular _ _ => .inl rfl
  | .tooLong _ _ => .inl rfl
  | .missing _ _ _ => .inl rfl
  | .literal _ _ _ _ => .inl rfl
  | .formula _ _ present answers => by
      by_cases same : address = changed
      · rw [same]
        exact .inr .refl
      · rw [Walk.progress_leave, if_neg same]
        refine (Answers.changes changed (yields_asksFor present) answers).imp ?_ ?_
        · intro unchanged
          rw [unchanged, Walk.progress_enter, if_neg same]
        · rintro ⟨asked, asksFor, leads⟩
          exact .head asksFor leads

theorem Answers.changes {room : Nat} {path : List Address} {inquiry : Inquiry Value}
    {walk after : Walk} {outcome : Outcome Value} {head : Address} (changed : Address)
    (yields : inquiry.Yields (source.AsksFor head) (fun _ _ => True) (fun _ => True)) :
    source.Answers room path inquiry walk outcome after →
      after.progress[changed]? = walk.progress[changed]? ∨
        ∃ asked, source.AsksFor head asked ∧ ReflTransGen source.AsksFor asked changed
  | .done _ => .inl rfl
  | .failed visits => by
      cases yields with
      | ask asksFor following =>
          exact (Visits.changes changed visits).imp_right fun leads => ⟨_, asksFor, leads⟩
  | .answered visits answers => by
      cases yields with
      | ask asksFor following =>
          rcases Answers.changes changed (following _ trivial) answers with unchanged | later
          · rw [unchanged]
            exact (Visits.changes changed visits).imp_right fun leads => ⟨_, asksFor, leads⟩
          · exact .inr later

end

def withGrid (source : Source) (grid : Grid String) : Source :=
  { source with grid }

theorem sameSurroundings_withGrid {edited : Grid String}
    (shape : edited.shape = source.grid.shape) :
    SameSurroundings source (source.withGrid edited) where
  tableId := rfl
  rowCount := (Grid.rowCount_eq_of_shape shape).symm
  columnCount := (Grid.columnCount_eq_of_shape shape).symm

/-- Evaluation is local. When a sheet is edited without changing its shape, a formula cell has the
result that it had before, up to the cell at which a circular reference is noticed, as long as
nothing has changed in the cell itself and in any cell that can be reached from it through
references. No chain of formula cells may be too long and no formula may call a random function,
before and after. -/
theorem outcome_of_edited_elsewhere (source : Source) (edited : Grid String)
    (shape : edited.shape = source.grid.shape) (calm : source.callsRandom = false)
    (calmEdited : (source.withGrid edited).callsRandom = false)
    (enough : source.formulaCells.length < source.options.maxDepth)
    (enoughEdited : (source.withGrid edited).formulaCells.length < source.options.maxDepth)
    (address : Address) (formula : String) (present : source.FormulaAt address formula)
    (agree : ∀ reached, ReflTransGen source.RefersTo address reached →
      edited.get? reached = source.grid.get? reached) :
    ∃ before after, source.outcome? address = some before ∧
      (source.withGrid edited).outcome? address = some after ∧ SameUpToCircle before after := by
  have same := sameSurroundings_withGrid shape
  have presentEdited : (source.withGrid edited).FormulaAt address formula :=
    ⟨(agree address .refl).trans present.1, present.2⟩
  let judged : Judgement source := source.limit ⟨calm, enough⟩
  let judgedEdited : Judgement (source.withGrid edited) :=
    (source.withGrid edited).limit ⟨calmEdited, enoughEdited⟩
  obtain ⟨before, found⟩ := judged.evaluated present
  obtain ⟨after, foundEdited⟩ := judgedEdited.evaluated presentEdited
  have comes : source.ComesTo address before := judged.right_of_outcome found
  have comesEdited : (source.withGrid edited).ComesTo address after :=
    judgedEdited.right_of_outcome foundEdited
  have rounds (round : Nat) : source.approximation round address =
      (source.withGrid edited).approximation round address :=
    approximation_eq_of_agree same rfl (fun reached leads => (agree reached leads).symm) round .refl
  exact ⟨before, after, found, foundEdited,
    (comes.of_approximation_eq rounds).sameUpToCircle comesEdited⟩

def invoiceSheet : Source where
  grid := { rows := [["3", "4", "=SUM(A1:B1)"], ["=C1*2", "=A2", "9"]] }
  tableId := "invoice"
  options := { maxDepth := 6, maxRangeCells := 4 }
  draws _ _ := .lowest

def editedInvoice : Grid String :=
  { rows := [["3", "4", "=SUM(A1:B1)"], ["=C1*2", "=C2+A2", "=B2+Z9"]] }

theorem outcome_of_edited_elsewhere_invoiceSheet :
    editedInvoice.shape = invoiceSheet.grid.shape ∧
      invoiceSheet.callsRandom = false ∧ (invoiceSheet.withGrid editedInvoice).callsRandom = false ∧
      invoiceSheet.formulaCells.length < 6 ∧
      (invoiceSheet.withGrid editedInvoice).formulaCells.length < 6 ∧
      (∀ reached, ReflTransGen invoiceSheet.RefersTo ⟨1, 0⟩ reached →
        editedInvoice.get? reached = invoiceSheet.grid.get? reached) ∧
      ∃ before after, invoiceSheet.outcome? ⟨1, 0⟩ = some before ∧
        (invoiceSheet.withGrid editedInvoice).outcome? ⟨1, 0⟩ = some after ∧
        SameUpToCircle before after := by
  have shape : editedInvoice.shape = invoiceSheet.grid.shape := rfl
  have calm : invoiceSheet.callsRandom = false := by decide +kernel
  have calmEdited : (invoiceSheet.withGrid editedInvoice).callsRandom = false := by decide +kernel
  have enough : invoiceSheet.formulaCells.length < 6 := by decide +kernel
  have enoughEdited : (invoiceSheet.withGrid editedInvoice).formulaCells.length < 6 := by
    decide +kernel
  let around : List Address := [⟨1, 0⟩, ⟨0, 2⟩, ⟨0, 0⟩, ⟨0, 1⟩]
  have closed {first referred : Address} (refers : invoiceSheet.RefersTo first referred) :
      first ∈ around → referred ∈ around := by
    refine RefersTo.of_mentioned? (fun first referred => first ∈ around → referred ∈ around) ?_
      refers
    decide +kernel
  have unchanged : ∀ reached ∈ around,
      editedInvoice.get? reached = invoiceSheet.grid.get? reached := by decide
  have agree : ∀ reached, ReflTransGen invoiceSheet.RefersTo ⟨1, 0⟩ reached →
      editedInvoice.get? reached = invoiceSheet.grid.get? reached := by
    intro reached leads
    apply unchanged
    induction leads with
    | refl => exact List.mem_cons_self
    | tail _ refers ih => exact closed refers ih
  exact ⟨shape, calm, calmEdited, enough, enoughEdited, agree,
    outcome_of_edited_elsewhere invoiceSheet editedInvoice shape calm calmEdited enough enoughEdited
      ⟨1, 0⟩ "=C1*2" ⟨rfl, by decide +kernel⟩ agree⟩

end Sheet.Source

end Spreadsheet

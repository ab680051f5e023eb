import Spreadsheet.Proofs.Sheet.Results

/-!
Two sheets evaluated side by side. Their cells are visited in one order, and what is kept true of
the two memories from one cell to the next relates the results in the two evaluated sheets.
-/

set_option autoImplicit false

namespace Spreadsheet.Sheet.Source

variable {Keeps : Walk → Walk → Prop}

/-- Two actions in step: their results are related, and so are the memories that they leave. -/
def InStep {α β : Type} (Keeps : Walk → Walk → Prop) (Gives : α → β → Prop)
    (first : α × Walk) (second : β × Walk) : Prop :=
  Gives first.1 second.1 ∧ Keeps first.2 second.2

theorem inStep_mapM {α β γ δ : Type} {Items : α → β → Prop} {Gives : γ → δ → Prop}
    {act : α → StateM Walk γ} {again : β → StateM Walk δ}
    (each : ∀ item other, Items item other → ∀ walk memory, Keeps walk memory →
      InStep Keeps Gives ((act item).run walk) ((again other).run memory))
    {items : List α} {others : List β} (related : List.Forall₂ Items items others)
    {walk memory : Walk} (kept : Keeps walk memory) :
    InStep Keeps (List.Forall₂ Gives) ((items.mapM act).run walk)
      ((others.mapM again).run memory) := by
  induction related generalizing walk memory with
  | nil => exact ⟨.nil, kept⟩
  | cons head tail ih =>
      obtain ⟨gives, keptOne⟩ := each _ _ head _ _ kept
      obtain ⟨givesRest, keptAll⟩ := ih keptOne
      rw [List.mapM_cons, List.mapM_cons]
      exact ⟨.cons gives givesRest, keptAll⟩

theorem related_results {source other : Source} {Cells : Address × String → Address × String → Prop}
    {Gives : CellResult → CellResult → Prop} (start : Keeps Walk.start Walk.start)
    (each : ∀ cell twin, Cells cell twin → ∀ walk memory, Keeps walk memory →
      InStep Keeps Gives ((source.evaluateCell cell).run walk)
        ((other.evaluateCell twin).run memory))
    (cells : Grid.Related Cells source.grid.addressed other.grid.addressed) :
    Grid.Related Gives source.results.1 other.results.1 := by
  have rows : ∀ row others, List.Forall₂ Cells row others → ∀ walk memory, Keeps walk memory →
      InStep Keeps (List.Forall₂ Gives) ((source.evaluateRow row).run walk)
        ((other.evaluateRow others).run memory) :=
    fun row others related walk memory kept => inStep_mapM each related kept
  exact (inStep_mapM rows cells start).1

end Spreadsheet.Sheet.Source

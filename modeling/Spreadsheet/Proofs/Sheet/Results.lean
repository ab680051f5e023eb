import Spreadsheet.Proofs.Sheet.Course
import Spreadsheet.Proofs.Sheet.Judgement

/-!
Walks from many roots. Cells are visited one after the other, each as the start of its own path,
with one memory for all of them: in any order and as often as one likes, or row by row, as an
evaluation of the whole sheet does.

The main statements are that what is right for a visited cell, given what is remembered after its
visit, is right for its result in the evaluated sheet, and that the results of a judgement are right
whichever cells were visited before.
-/

set_option autoImplicit false

namespace Spreadsheet.Sheet

namespace CellResult

def outcome? : CellResult → Option (Outcome Value)
  | .literal _ => none
  | .computed outcome => some outcome

theorem isSome_outcome? (result : CellResult) : result.outcome?.isSome = result.isComputed := by
  cases result <;> rfl

end CellResult

namespace Source

def visitRoots (source : Source) (calls : List Address) : StateM Walk (List (Outcome Value)) :=
  calls.mapM source.visitRoot

theorem run_visitRoots_cons (source : Source) (address : Address) (rest : List Address)
    (walk : Walk) :
    (source.visitRoots (address :: rest)).run walk =
      ((source.visitRoot address walk).1 ::
          ((source.visitRoots rest).run (source.visitRoot address walk).2).1,
        ((source.visitRoots rest).run (source.visitRoot address walk).2).2) := by
  rw [visitRoots, List.mapM_cons]
  rfl

/-- The result of a formula cell when the sheet is evaluated. -/
def outcome? (source : Source) (address : Address) : Option (Outcome Value) :=
  match source.results.1.get? address with
  | some (.computed outcome) => some outcome
  | some (.literal _) => none
  | none => none

theorem outcome?_eq_some_iff {source : Source} {address : Address} {outcome : Outcome Value} :
    source.outcome? address = some outcome ↔
      source.results.1.get? address = some (.computed outcome) := by
  rw [outcome?]
  split
  · rename_i found known
    rw [known, Option.some.injEq, Option.some.injEq, CellResult.computed.injEq]
  · rename_i known
    rw [known]
    exact iff_of_false nofun nofun
  · rename_i known
    rw [known]
    exact iff_of_false nofun nofun

theorem mapM_flatten {m : Type → Type} [Monad m] [LawfulMonad m] {α β : Type} (act : α → m β)
    (rows : List (List α)) :
    rows.flatten.mapM act = List.flatten <$> rows.mapM (List.mapM act) := by
  induction rows with
  | nil => simp
  | cons row rest ih => simp [List.mapM_append, ih]

theorem run_mapM_evaluateCell (source : Source) (cells : List (Address × String)) (walk : Walk) :
    (source.visitRoots ((cells.filter fun cell => isFormula cell.2).map Prod.fst)).run walk =
      (((cells.mapM source.evaluateCell).run walk).1.filterMap CellResult.outcome?,
        ((cells.mapM source.evaluateCell).run walk).2) := by
  induction cells generalizing walk with
  | nil => rfl
  | cons cell rest ih =>
      rw [List.mapM_cons, evaluateCell, List.filter_cons]
      cases isFormula cell.2 with
      | false => exact ih walk
      | true =>
          rw [if_pos rfl, List.map_cons, run_visitRoots_cons, ih]
          rfl

/-- The evaluation of a sheet is a walk from its formula cells, row by row. -/
theorem run_visitRoots_formulaCells (source : Source) :
    (source.visitRoots source.formulaCells).run Walk.start =
      (source.results.1.rows.flatten.filterMap CellResult.outcome?, source.results.2) := by
  rw [formulaCells, run_mapM_evaluateCell, mapM_flatten]
  rfl

theorem get?_evaluateWithStatistics {source : Source}
    (accepted : source.options.validate = .ok ()) (address : Address) :
    (evaluateWithStatistics source).1.get? address =
      (source.results.1.get? address).map CellResult.text := by
  rw [evaluateWithStatistics, accepted]
  exact Grid.get?_map _ _ _

/-- A walk carries on when it finds what should hold with its memory, keeps the memory as it should
be, and forgets nothing. -/
def Carries {α : Type} (source : Source) (Keeps : Walk → Prop) (Holds : Walk → α → Prop)
    (walk : Walk) (found : α × Walk) : Prop :=
  Holds found.2 found.1 ∧ Keeps found.2 ∧ source.Grows walk found.2

theorem carries_mapM {α β : Type} {source : Source} {Keeps : Walk → Prop}
    {Gives : Walk → α → β → Prop} {act : α → StateM Walk β}
    (lasts : ∀ {walk after : Walk}, source.Grows walk after →
      ∀ {item result}, Gives walk item result → Gives after item result)
    (each : ∀ item {walk}, Keeps walk →
      source.Carries Keeps (fun after => Gives after item) walk ((act item).run walk))
    (items : List α) {walk : Walk} (kept : Keeps walk) :
    source.Carries Keeps (fun after => List.Forall₂ (Gives after) items) walk
      ((items.mapM act).run walk) := by
  induction items generalizing walk with
  | nil => exact ⟨.nil, kept, grows_of_progress_eq rfl⟩
  | cons item rest ih =>
      obtain ⟨gives, keptOne, grows⟩ := each item kept
      obtain ⟨givesRest, keptAll, growsRest⟩ := ih keptOne
      rw [List.mapM_cons]
      exact ⟨.cons (lasts growsRest gives) givesRest, keptAll, grows.trans growsRest⟩

end Source

/-- What is kept true of the memory while cells are visited one after the other, and which results
are right given what is remembered. -/
structure Account (source : Source) where
  Keeps : Walk → Prop
  Right : Walk → Address → Outcome Value → Prop
  start : Keeps Walk.start
  lasts : ∀ {walk after : Walk}, source.Grows walk after →
    ∀ {address outcome}, Right walk address outcome → Right after address outcome
  visits : ∀ address {walk}, Keeps walk →
    Right (source.visitRoot address walk).2 address (source.visitRoot address walk).1 ∧
      Keeps (source.visitRoot address walk).2

namespace Account

variable {source : Source} (account : Account source)

theorem carries_visitRoots (calls : List Address) :
    source.Carries account.Keeps (fun after => List.Forall₂ (account.Right after) calls)
      Walk.start ((source.visitRoots calls).run Walk.start) := by
  refine Source.carries_mapM account.lasts ?_ calls account.start
  intro address walk kept
  obtain ⟨right, keptOne⟩ := account.visits address kept
  exact ⟨right, keptOne, source.grows_visitRoot address walk⟩

/-- What an evaluation makes of a cell: the text of a cell without formula, and a right result. -/
inductive Gives (walk : Walk) : Address × String → CellResult → Prop
  | literal {address : Address} {text : String} (plain : isFormula text = false) :
      Gives walk (address, text) (.literal text)
  | computed {address : Address} {text : String} {outcome : Outcome Value}
      (formula : isFormula text = true) (right : account.Right walk address outcome) :
      Gives walk (address, text) (.computed outcome)

theorem Gives.lasts {account : Account source} {walk after : Walk}
    (grows : source.Grows walk after) {cell : Address × String} {result : CellResult}
    (gives : account.Gives walk cell result) : account.Gives after cell result := by
  cases gives with
  | literal plain => exact .literal plain
  | computed formula right => exact .computed formula (account.lasts grows right)

theorem gives_evaluateCell (cell : Address × String) {walk : Walk} (kept : account.Keeps walk) :
    source.Carries account.Keeps (fun after => account.Gives after cell) walk
      ((source.evaluateCell cell).run walk) := by
  rw [Source.evaluateCell]
  cases formula : isFormula cell.2 with
  | false => exact ⟨.literal formula, kept, Source.grows_of_progress_eq rfl⟩
  | true =>
      obtain ⟨right, keptOne⟩ := account.visits cell.1 kept
      exact ⟨.computed formula right, keptOne, source.grows_visitRoot cell.1 walk⟩

theorem carries_results :
    source.Carries account.Keeps
      (fun after => Grid.Related (account.Gives after) source.grid.addressed) Walk.start
      source.results := by
  have lasts {walk after : Walk} (grows : source.Grows walk after) {row results}
      (gives : List.Forall₂ (account.Gives walk) row results) :
      List.Forall₂ (account.Gives after) row results := gives.imp fun _ _ one => one.lasts grows
  exact Source.carries_mapM lasts
    (fun row {_} kept => Source.carries_mapM Gives.lasts account.gives_evaluateCell row kept)
    source.grid.addressed.rows account.start

/-- What the evaluated sheet holds at an address. -/
inductive Reported (address : Address) : Option CellResult → Prop
  | missing (absent : source.grid.get? address = none) : Reported address none
  | literal {text : String} (present : source.grid.get? address = some text)
      (plain : isFormula text = false) : Reported address (some (.literal text))
  | computed {text : String} {outcome : Outcome Value} (present : source.FormulaAt address text)
      (right : account.Right source.results.2 address outcome) :
      Reported address (some (.computed outcome))

theorem reported (address : Address) :
    account.Reported address (source.results.1.get? address) := by
  have gives := account.carries_results.1.get? address
  rw [Grid.get?_addressed] at gives
  generalize source.results.1.get? address = found at gives ⊢
  cases content : source.grid.get? address with
  | none =>
      rw [content] at gives
      cases gives
      exact .missing content
  | some text =>
      rw [content, Option.map_some] at gives
      cases gives with
      | some one =>
          cases one with
          | literal plain => exact .literal content plain
          | computed formula right => exact .computed ⟨content, formula⟩ right

theorem evaluated (account : Account source) {address : Address} {text : String}
    (present : source.FormulaAt address text) :
    ∃ outcome, source.results.1.get? address = some (.computed outcome) := by
  have reported := account.reported address
  generalize source.results.1.get? address = found at reported ⊢
  cases reported with
  | missing absent => cases present.1.symm.trans absent
  | literal there plain => exact (present.not_plain there plain).elim
  | computed there right => exact ⟨_, rfl⟩

theorem right_of_outcome {address : Address} {outcome : Outcome Value}
    (found : source.outcome? address = some outcome) :
    (∃ text, source.FormulaAt address text) ∧
      account.Right source.results.2 address outcome := by
  have reported := account.reported address
  rw [Source.outcome?] at found
  generalize source.results.1.get? address = result at reported found
  cases reported with
  | missing absent => cases found
  | literal present plain => cases found
  | computed present right =>
      cases found
      exact ⟨⟨_, present⟩, right⟩

end Account

namespace Judgement

variable {source : Source} (judgement : Judgement source)

def account : Account source where
  Keeps := judgement.Fits []
  Right _ := judgement.Right
  start := judgement.fits_start
  lasts _ := id
  visits address _ fits := finds_visitRoot fits address

theorem right_visitRoots (calls : List Address) :
    List.Forall₂ judgement.Right calls ((source.visitRoots calls).run Walk.start).1 :=
  (judgement.account.carries_visitRoots calls).1

theorem evaluated (judgement : Judgement source) {address : Address} {text : String}
    (present : source.FormulaAt address text) :
    ∃ outcome, source.outcome? address = some outcome := by
  obtain ⟨outcome, found⟩ := judgement.account.evaluated present
  exact ⟨outcome, by rw [Source.outcome?, found]⟩

theorem right_of_outcome {address : Address} {outcome : Outcome Value}
    (found : source.outcome? address = some outcome) : judgement.Right address outcome :=
  (judgement.account.right_of_outcome found).2

end Judgement

end Spreadsheet.Sheet

import Mathlib.Logic.Relation
import Spreadsheet.Proofs.Expression
import Spreadsheet.Sheet.Evaluation

/-!
What a formula asks. Computing the formula of a cell asks for the values of other cells, one after
the other; a failure among the answers is the result, and otherwise the next question or the result
depends on the answers. As a tree of questions this no longer says how they are answered: by a walk
that remembers, or by looking results up. Chance comes in at the end only: what is asked does not
depend on draws, and the result may.

The main statements are that a walk computes a formula by answering its questions, and that looking
results up does so as well.
-/

set_option autoImplicit false

namespace Spreadsheet.Sheet

inductive Inquiry (α : Type) where
  | done (outcome : Outcome α)
  | ask (address : Address) (next : Value → Inquiry α)

namespace Inquiry

variable {α β γ : Type}

def bind : Inquiry α → (α → Inquiry β) → Inquiry β
  | .done (.error error), _ => .done (.error error)
  | .done (.ok result), next => next result
  | .ask address further, next => .ask address fun value => (further value).bind next

instance : Monad Inquiry where
  pure result := .done (.ok result)
  bind := bind

theorem ask_bind (address : Address) (further : Value → Inquiry α) (next : α → Inquiry β) :
    (ask address further >>= next) = .ask address fun value => further value >>= next :=
  rfl

private theorem bind_pure_self (inquiry : Inquiry α) : (inquiry >>= pure) = inquiry := by
  induction inquiry with
  | done outcome => cases outcome <;> rfl
  | ask address next ih =>
      rw [ask_bind]
      exact congrArg (ask address) (funext ih)

private theorem bind_assoc_self (inquiry : Inquiry α) (first : α → Inquiry β)
    (second : β → Inquiry γ) :
    (inquiry >>= first >>= second) = (inquiry >>= fun result => first result >>= second) := by
  induction inquiry with
  | done outcome => cases outcome <;> rfl
  | ask address next ih =>
      rw [ask_bind, ask_bind, ask_bind]
      exact congrArg (ask address) (funext ih)

instance : LawfulMonad Inquiry :=
  LawfulMonad.mk' Inquiry bind_pure_self (fun _ _ => rfl) bind_assoc_self

def cell (address : Address) : Inquiry Value :=
  .ask address pure

def walk (visit : Address → Walking Value) : Inquiry α → Walking α
  | .done outcome => Walking.ofOutcome outcome
  | .ask address next => do
      let value ← visit address
      (next value).walk visit

def answer (look : Address → Outcome Value) : Inquiry α → Outcome α
  | .done outcome => outcome
  | .ask address next => do
      let value ← look address
      (next value).answer look

end Inquiry

/-- A way to answer inquiries, in which the answer to two inquiries in a row is that to the first
and then that to the second. -/
structure Answering (m : Type → Type) [Monad m] where
  run : {α : Type} → Inquiry α → m α
  run_pure : {α : Type} → (result : α) → run (pure result) = pure result
  run_bind : {α β : Type} → (first : Inquiry α) → (next : α → Inquiry β) →
    run (first >>= next) = run first >>= fun result => run (next result)

namespace Answering

variable {m : Type → Type} [Monad m] [LawfulMonad m]

theorem run_mapM {α β : Type} (answering : Answering m) (act : α → Inquiry β) (items : List α) :
    answering.run (items.mapM act) = items.mapM fun item => answering.run (act item) := by
  induction items with
  | nil =>
      rw [List.mapM_nil, List.mapM_nil]
      exact answering.run_pure []
  | cons item rest ih =>
      rw [List.mapM_cons, List.mapM_cons, answering.run_bind]
      congr 1
      funext first
      rw [answering.run_bind, ih]
      congr 1
      funext others
      exact answering.run_pure _

theorem run_resolveWith (answering : Answering m) (resolver : Reference → Inquiry Operand)
    (program : Program) :
    answering.run (program.resolveWith resolver) =
      program.resolveWith fun reference => answering.run (resolver reference) := by
  rw [Program.resolveWith, Program.resolveWith, answering.run_mapM]
  congr 1
  funext item
  cases item with
  | reference target =>
      rw [Item.resolveWith, Item.resolveWith, answering.run_bind]
      congr 1
      funext operand
      exact answering.run_pure _
  | literal value => exact answering.run_pure _
  | resolved operand => exact answering.run_pure _
  | name given => exact answering.run_pure _
  | operator operator => exact answering.run_pure _
  | call function count => exact answering.run_pure _

end Answering

def walking (visit : Address → Walking Value) : Answering Walking where
  run := Inquiry.walk visit
  run_pure _ := rfl
  run_bind first next := by
    induction first with
    | done outcome => cases outcome <;> rfl
    | ask address further ih =>
        rw [Inquiry.ask_bind, Inquiry.walk, Inquiry.walk, bind_assoc]
        exact congrArg (visit address >>= ·) (funext ih)

theorem run_walking {α : Type} (visit : Address → Walking Value) (inquiry : Inquiry α) :
    (walking visit).run inquiry = inquiry.walk visit :=
  rfl

def looking (look : Address → Outcome Value) : Answering Outcome where
  run := Inquiry.answer look
  run_pure _ := rfl
  run_bind first next := by
    induction first with
    | done outcome => cases outcome <;> rfl
    | ask address further ih =>
        rw [Inquiry.ask_bind, Inquiry.answer, Inquiry.answer, bind_assoc]
        exact congrArg (look address >>= ·) (funext ih)

theorem run_looking {α : Type} (look : Address → Outcome Value) (inquiry : Inquiry α) :
    (looking look).run inquiry = inquiry.answer look :=
  rfl

theorem Walking.run_bind {α β : Type} (first : Walking α) (next : α → Walking β) (walk : Walk) :
    (first >>= next).run walk =
      match first.run walk with
      | (.ok result, after) => (next result).run after
      | (.error error, after) => (.error error, after) := by
  show (match first.run walk with
    | (outcome, after) => ExceptT.bindCont next outcome after) = _
  rcases first.run walk with ⟨outcome, after⟩
  cases outcome <;> rfl

namespace Source

def inquire (source : Source) : Reference → Inquiry Operand
  | .cell address => do
      let value ← Inquiry.cell address
      return .value value
  | .range block => do
      Inquiry.done (source.checkRange block)
      let values ← block.cells.mapM Inquiry.cell
      return .range values

/-- All that a formula asks for, and then the program that is left to be evaluated. -/
def resolution (source : Source) (formula : String) : Inquiry Program := do
  let program ← Inquiry.done (programOf formula)
  program.resolveWith source.inquire

/-- The inquiry of a cell with the draws of one computation. -/
def drawnInquiry (source : Source) (draws : Draws) (address : Address) (formula : String) :
    Inquiry Value := do
  let resolved ← source.resolution formula
  Inquiry.done (resolved.evaluate ((source.context.drawing draws).withCell address))

def inquiry (source : Source) (address : Address) (formula : String) : Inquiry Value :=
  source.drawnInquiry (fun _ => .lowest) address formula

/-- What a reference stands for when the results of all cells are known. The cells of a block are
looked up column by column, after the block has been checked. -/
def lookUp (source : Source) (look : Address → Outcome Value) : Reference → Outcome Operand
  | .cell address => do
      let value ← look address
      return .value value
  | .range block => do
      source.checkRange block
      let values ← block.cells.mapM look
      return .range values

/-- The result of a cell's formula when the results of all cells are known: its references are
looked up from left to right, the first failure is the result, and otherwise the formula is
evaluated at the cell. -/
def outcomeOf (source : Source) (look : Address → Outcome Value) (address : Address)
    (formula : String) : Outcome Value := do
  let program ← programOf formula
  let resolved ← program.resolveWith (source.lookUp look)
  resolved.evaluate (source.context.withCell address)

theorem walk_inquire (source : Source) (visit : Address → Walking Value) (target : Reference) :
    (walking visit).run (source.inquire target) = source.resolveReference visit target := by
  have each (address : Address) : (walking visit).run (Inquiry.cell address) = visit address :=
    bind_pure (visit address)
  cases target with
  | cell address =>
      rw [inquire, (walking visit).run_bind, each]
      rfl
  | range block =>
      rw [inquire, (walking visit).run_bind]
      congr 1
      funext checked
      rw [(walking visit).run_bind, (walking visit).run_mapM]
      simp only [each]
      rfl

theorem answer_inquire (source : Source) (look : Address → Outcome Value) (target : Reference) :
    (looking look).run (source.inquire target) = source.lookUp look target := by
  have each (address : Address) : (looking look).run (Inquiry.cell address) = look address :=
    bind_pure (look address)
  cases target with
  | cell address =>
      rw [inquire, (looking look).run_bind, each]
      rfl
  | range block =>
      rw [inquire, (looking look).run_bind]
      congr 1
      funext checked
      rw [(looking look).run_bind, (looking look).run_mapM]
      simp only [each]
      rfl

theorem walk_resolution (source : Source) (visit : Address → Walking Value) (formula : String) :
    (walking visit).run (source.resolution formula) =
      Walking.ofOutcome (programOf formula) >>= fun program =>
        program.resolveWith (source.resolveReference visit) := by
  have asked : (fun target => (walking visit).run (source.inquire target)) =
      source.resolveReference visit := funext (source.walk_inquire visit)
  rw [resolution, (walking visit).run_bind]
  congr 1
  funext program
  rw [(walking visit).run_resolveWith, asked]

/-- A walk computes a formula by answering all that it asks for; then it evaluates the program that
is left, with the draws that follow on the computations so far. -/
theorem run_compute (source : Source) (visit : Address → Walking Value) (address : Address)
    (formula : String) (walk : Walk) :
    (source.compute visit address formula).run walk =
      match ((source.resolution formula).walk visit).run walk with
      | (.ok resolved, after) =>
          (resolved.evaluate
            ((source.context.drawing (source.draws after.computed)).withCell address), after)
      | (.error error, after) => (.error error, after) := by
  have resolves : source.compute visit address formula =
      (source.resolution formula).walk visit >>= fun resolved =>
        get >>= fun walk =>
          let context := source.context.drawing (source.draws walk.computed)
          Walking.ofOutcome (resolved.evaluate (context.withCell address)) := by
    rw [← run_walking, walk_resolution, compute, bind_assoc]
  rw [resolves, Walking.run_bind]
  rcases ((source.resolution formula).walk visit).run walk with ⟨outcome, after⟩
  cases outcome <;> rfl

theorem run_drawnInquiry (source : Source) (visit : Address → Walking Value) (draws : Draws)
    (address : Address) (formula : String) (walk : Walk) :
    ((source.drawnInquiry draws address formula).walk visit).run walk =
      match ((source.resolution formula).walk visit).run walk with
      | (.ok resolved, after) =>
          (resolved.evaluate ((source.context.drawing draws).withCell address), after)
      | (.error error, after) => (.error error, after) := by
  rw [drawnInquiry, ← run_walking, (walking visit).run_bind, run_walking, Walking.run_bind]
  rcases ((source.resolution formula).walk visit).run walk with ⟨outcome, after⟩
  cases outcome <;> rfl

theorem exists_run_compute (source : Source) (visit : Address → Walking Value) (address : Address)
    (formula : String) (walk : Walk) :
    ∃ draws, (source.compute visit address formula).run walk =
      ((source.drawnInquiry draws address formula).walk visit).run walk := by
  refine ⟨source.draws (((source.resolution formula).walk visit).run walk).2.computed, ?_⟩
  rw [run_compute, run_drawnInquiry]
  rcases ((source.resolution formula).walk visit).run walk with ⟨outcome, after⟩
  cases outcome <;> rfl

theorem memory_compute (source : Source) (visit : Address → Walking Value) (address : Address)
    (formula : String) (walk : Walk) :
    ((source.compute visit address formula).run walk).2 =
      (((source.resolution formula).walk visit).run walk).2 := by
  rw [run_compute]
  rcases ((source.resolution formula).walk visit).run walk with ⟨outcome, after⟩
  cases outcome <;> rfl

theorem outcomeOf_eq_answer (source : Source) (look : Address → Outcome Value)
    (address : Address) (formula : String) :
    source.outcomeOf look address formula = (source.inquiry address formula).answer look := by
  have asked : (fun target => (looking look).run (source.inquire target)) =
      source.lookUp look := funext (source.answer_inquire look)
  rw [← run_looking, outcomeOf, inquiry, drawnInquiry, resolution, bind_assoc,
    (looking look).run_bind]
  congr 1
  funext program
  rw [(looking look).run_bind, (looking look).run_resolveWith, asked]
  rfl

end Source

end Spreadsheet.Sheet

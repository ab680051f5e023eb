import Spreadsheet.Proofs.Chance
import Spreadsheet.Proofs.Sheet.References

/-!
Sheets without chance. When no formula of a sheet calls a random function, the draws of a
computation make no difference to it: each computation of a cell follows the one inquiry of the
cell.
-/

set_option autoImplicit false

namespace Spreadsheet.Sheet

/-- Does the formula, with its placeholders rewritten, call a random function? -/
def callsRandom (formula : String) : Bool :=
  match Source.programOf formula with
  | .error _ => false
  | .ok program => program.callsRandom

namespace Inquiry

variable {α β : Type} {Allowed : Address → Prop} {Post : Outcome α → Prop}

theorem Yields.bind_congr {inquiry : Inquiry α} {next again : α → Inquiry β}
    (yields : inquiry.Yields Allowed (fun _ _ => True) Post)
    (same : ∀ result, Post (.ok result) → next result = again result) :
    (inquiry >>= next) = (inquiry >>= again) := by
  induction yields with
  | @done outcome holds =>
      cases outcome with
      | error error => rfl
      | ok result => exact same result holds
  | @ask asked further allowed following ih =>
      rw [ask_bind, ask_bind]
      exact congrArg (Inquiry.ask asked) (funext fun value => ih value trivial)

end Inquiry

theorem callsRandom_of_filled {program filled : Program}
    (fills : List.Forall₂ Item.FilledBy program filled) (calm : program.callsRandom = false) :
    filled.callsRandom = false := by
  rw [Program.callsRandom_eq_false_iff] at calm ⊢
  induction fills with
  | nil => exact calm
  | cons one following ih =>
      obtain ⟨first, others⟩ := List.forall_mem_cons.1 calm
      refine List.forall_mem_cons.2 ⟨?_, ih others⟩
      cases one with
      | same plain => exact first
      | reference target operand => rfl

namespace Source

/-- Does some formula of the sheet call a random function? -/
def callsRandom (source : Source) : Bool :=
  source.grid.rows.flatten.any fun text => isFormula text && Sheet.callsRandom text

variable {source : Source}

theorem callsRandom_eq_false_iff :
    source.callsRandom = false ↔
      ∀ address text, source.FormulaAt address text → Sheet.callsRandom text = false := by
  simp only [callsRandom, List.any_eq_false, Bool.and_eq_true, not_and, Bool.not_eq_true]
  constructor
  · intro calm address text present
    exact calm text (Grid.mem_flatten_of_get? present.1) present.2
  · intro calm text member formula
    obtain ⟨address, there⟩ := Grid.exists_get?_of_mem_flatten member
    exact calm address text ⟨there, formula⟩

/-- In a sheet without chance a cell has one inquiry. -/
theorem drawnInquiry_eq (calm : source.callsRandom = false) {address : Address} {text : String}
    (present : source.FormulaAt address text) (draws : Draws) :
    source.drawnInquiry draws address text = source.inquiry address text := by
  have yields : (source.resolution text).Yields (fun _ => True) (fun _ _ => True) _ :=
    yields_resolution fun _ _ => trivial
  refine yields.bind_congr fun filled settled => ?_
  obtain ⟨-, program, read, fills⟩ := settled.2 filled rfl
  have calmFormula := callsRandom_eq_false_iff.1 calm address text present
  unfold Sheet.callsRandom at calmFormula
  rw [read] at calmFormula
  have calmFilled := callsRandom_of_filled fills calmFormula
  have one := Program.evaluate_drawing calmFilled (source.context.withCell address)
  exact congrArg Inquiry.done ((one draws).trans (one _).symm)

theorem compute_eq_walk (calm : source.callsRandom = false) {address : Address} {text : String}
    (present : source.FormulaAt address text) (visit : Address → Walking Value) (walk : Walk) :
    (source.compute visit address text).run walk =
      ((source.inquiry address text).walk visit).run walk := by
  obtain ⟨draws, same⟩ := source.exists_run_compute visit address text walk
  rw [same, drawnInquiry_eq calm present]

end Source

end Spreadsheet.Sheet

import Spreadsheet.Proofs.Sheet.Approximation
import Spreadsheet.Proofs.Sheet.References

/-!
Two sheets compared. In sheets of one size and with one name the same formula asks the same, and its
answers depend on the cells that it mentions and on nothing else. A larger limit on blocks only lets
an inquiry go on where it failed before.

The main statements are that a value found from some results is found again from any results with
at least the same values, and that all cells that can be reached from a cell with a value come to
values themselves.
-/

set_option autoImplicit false

namespace Spreadsheet.Sheet

open Relation (ReflTransGen)

namespace Inquiry

variable {α β : Type}

/-- The later inquiry asks the same and ends with the same result, but where the earlier one fails
it may go on. -/
inductive Outlasts : Inquiry α → Inquiry α → Prop
  | failed (error : FormulaError) (late : Inquiry α) : Outlasts (.done (.error error)) late
  | done (result : α) : Outlasts (.done (.ok result)) (.done (.ok result))
  | ask {asked : Address} {next further : Value → Inquiry α}
      (following : ∀ value, Outlasts (next value) (further value)) :
      Outlasts (.ask asked next) (.ask asked further)

theorem outlasts_self (inquiry : Inquiry α) : inquiry.Outlasts inquiry := by
  induction inquiry with
  | done outcome =>
      cases outcome with
      | error error => exact .failed error _
      | ok result => exact .done result
  | ask asked next ih => exact .ask ih

theorem Outlasts.bind {early late : Inquiry α} {next further : α → Inquiry β}
    (outlasts : early.Outlasts late)
    (following : ∀ result, (next result).Outlasts (further result)) :
    (early >>= next).Outlasts (late >>= further) := by
  induction outlasts with
  | failed error late => exact .failed error _
  | done result => exact following result
  | ask _ ih => exact .ask ih

theorem outlasts_mapM {γ : Type} {act again : γ → Inquiry β}
    (each : ∀ item, (act item).Outlasts (again item)) (items : List γ) :
    (items.mapM act).Outlasts (items.mapM again) := by
  induction items with
  | nil => exact outlasts_self _
  | cons item rest ih =>
      rw [List.mapM_cons, List.mapM_cons]
      exact (each item).bind fun _ => ih.bind fun _ => outlasts_self _

theorem Outlasts.answer_eq_ok {early late : Inquiry α} {look again : Address → Outcome Value}
    {result : α} (outlasts : early.Outlasts late)
    (more : ∀ asked value, look asked = .ok value → again asked = .ok value)
    (found : early.answer look = .ok result) : late.answer again = .ok result := by
  induction outlasts with
  | failed error late => cases found
  | done result => exact found
  | @ask asked next further following ih =>
      cases known : look asked with
      | error error =>
          rw [answer_ask_error known] at found
          cases found
      | ok value =>
          rw [answer_ask_ok known] at found
          rw [answer_ask_ok (more asked value known)]
          exact ih value found

variable {Allowed : Address → Prop} {Post : Outcome α → Prop}

theorem Yields.answer {look : Address → Outcome Value} {inquiry : Inquiry α}
    (yields : inquiry.Yields Allowed (fun asked value => look asked = .ok value) Post) :
    Post (inquiry.answer look) ∨
      ∃ error, (∃ asked, Allowed asked ∧ look asked = .error error) ∧
        inquiry.answer look = .error error := by
  induction yields with
  | done holds => exact .inl holds
  | @ask asked next allowed following ih =>
      cases known : look asked with
      | error error =>
          rw [answer_ask_error known]
          exact .inr ⟨error, ⟨asked, allowed, known⟩, rfl⟩
      | ok value =>
          rw [answer_ask_ok known]
          exact ih value known

theorem Yields.answer_congr {look again : Address → Outcome Value} {inquiry : Inquiry α}
    (yields : inquiry.Yields Allowed (fun _ _ => True) Post)
    (same : ∀ asked, Allowed asked → look asked = again asked) :
    inquiry.answer look = inquiry.answer again := by
  induction yields with
  | done holds => rfl
  | @ask asked next allowed following ih =>
      cases known : look asked with
      | error error =>
          rw [answer_ask_error known, answer_ask_error (same asked allowed ▸ known)]
      | ok value =>
          rw [answer_ask_ok known, answer_ask_ok (same asked allowed ▸ known)]
          exact ih value trivial

end Inquiry

namespace Source

variable {source other : Source}

/-- Two sheets of one size and with one name: formulas find the same surroundings in them. -/
structure SameSurroundings (source other : Source) : Prop where
  tableId : source.tableId = other.tableId
  rowCount : source.grid.rowCount = other.grid.rowCount
  columnCount : source.grid.columnCount = other.grid.columnCount

theorem SameSurroundings.context_eq (same : SameSurroundings source other) :
    source.context = other.context := by
  rw [context, context, same.tableId, same.rowCount, same.columnCount]

theorem SameSurroundings.firstMissing?_eq (same : SameSurroundings source other)
    (block : CellRange) : source.firstMissing? block = other.firstMissing? block := by
  rw [firstMissing?, firstMissing?, same.rowCount, same.columnCount]

theorem SameSurroundings.inquiry_eq (same : SameSurroundings source other)
    (limit : source.options.maxRangeCells = other.options.maxRangeCells) :
    source.inquiry = other.inquiry := by
  have checked : source.checkRange = other.checkRange := by
    funext block
    rw [checkRange, checkRange, same.firstMissing?_eq, limit]
  have asked : source.inquire = other.inquire := by
    funext target
    cases target with
    | cell address => rfl
    | range block => rw [inquire, inquire, checked]
  funext address formula
  rw [inquiry, inquiry, drawnInquiry, drawnInquiry, resolution, resolution, asked,
    same.context_eq]

theorem SameSurroundings.checkRange_eq_ok (same : SameSurroundings source other)
    (limit : source.options.maxRangeCells ≤ other.options.maxRangeCells) {block : CellRange}
    (accepted : source.checkRange block = .ok ()) : other.checkRange block = .ok () := by
  rw [checkRange, same.firstMissing?_eq] at accepted
  rw [checkRange]
  split at accepted
  · cases accepted
  · split at accepted
    · cases accepted
    · exact if_neg (by omega)

theorem SameSurroundings.outlasts_inquire (same : SameSurroundings source other)
    (limit : source.options.maxRangeCells ≤ other.options.maxRangeCells) (target : Reference) :
    (source.inquire target).Outlasts (other.inquire target) := by
  cases target with
  | cell address => exact Inquiry.outlasts_self _
  | range block =>
      rw [inquire, inquire]
      cases checked : source.checkRange block with
      | error error => exact .failed error _
      | ok _ =>
          rw [same.checkRange_eq_ok limit checked]
          exact Inquiry.outlasts_self _

/-- With a larger limit on blocks a formula asks the same, or goes on where it failed. -/
theorem SameSurroundings.outlasts_inquiry (same : SameSurroundings source other)
    (limit : source.options.maxRangeCells ≤ other.options.maxRangeCells) (address : Address)
    (formula : String) :
    (source.inquiry address formula).Outlasts (other.inquiry address formula) := by
  have each (item : Item) : (Item.resolveWith source.inquire item).Outlasts
      (Item.resolveWith other.inquire item) := by
    cases item with
    | reference target =>
        exact (same.outlasts_inquire limit target).bind fun _ => Inquiry.outlasts_self _
    | literal value => exact Inquiry.outlasts_self _
    | resolved operand => exact Inquiry.outlasts_self _
    | name given => exact Inquiry.outlasts_self _
    | operator operator => exact Inquiry.outlasts_self _
    | call function count => exact Inquiry.outlasts_self _
  have resolves : (source.resolution formula).Outlasts (other.resolution formula) :=
    (Inquiry.outlasts_self _).bind fun program => Inquiry.outlasts_mapM each program
  rw [inquiry, inquiry, drawnInquiry, drawnInquiry, same.context_eq]
  exact resolves.bind fun _ => Inquiry.outlasts_self _

theorem SameSurroundings.resultOf_eq_ok (same : SameSurroundings source other)
    (limit : source.options.maxRangeCells ≤ other.options.maxRangeCells) {address : Address}
    {look again : Address → Outcome Value} {value : Value}
    (content : source.grid.get? address = other.grid.get? address)
    (more : ∀ asked value, look asked = .ok value → again asked = .ok value)
    (found : source.resultOf look address = .ok value) :
    other.resultOf again address = .ok value := by
  rw [resultOf] at found ⊢
  rw [← content]
  split at found
  · cases found
  · split at found
    · rename_i formula
      rw [outcomeOf_eq_answer] at found
      rw [if_pos formula, outcomeOf_eq_answer]
      exact (same.outlasts_inquiry limit _ _).answer_eq_ok more found
    · rename_i plain
      rw [if_neg plain]
      exact found

/-- What is found in some round and is not circular is what the cell comes to. -/
theorem comesTo_of_approximation {round : Nat} {address : Address} {outcome : Outcome Value}
    (found : source.approximation round address = outcome) (settled : ¬ Circular outcome) :
    source.ComesTo address outcome where
  settles early := by
    by_cases circular : Circular (source.approximation early address)
    · exact .inl circular
    · have one := approximation_stays (Nat.le_max_left early round) rfl circular
      have other := approximation_stays (Nat.le_max_right early round) found settled
      exact .inr (one.symm.trans other)
  reached := .inr ⟨round, found⟩

theorem ComesTo.approximation_eq {round : Nat} {address : Address} {outcome : Outcome Value}
    {value : Value} (comes : source.ComesTo address outcome)
    (found : source.approximation round address = .ok value) : outcome = .ok value := by
  have settled : ¬ Circular (source.approximation round address) := found ▸ not_circular_ok value
  exact ((comes.settles round).eq settled).symm.trans found

theorem ComesTo.eq_ok {address : Address} {outcome : Outcome Value} {value : Value}
    (comes : source.ComesTo address outcome) (known : source.ComesTo address (.ok value)) :
    outcome = .ok value := by
  obtain ⟨round, found⟩ := known.reached.resolve_left (not_circular_ok value)
  exact comes.approximation_eq found

theorem approximation_of_asksFor {round : Nat} {address asked : Address} {value : Value}
    (found : source.approximation (round + 1) address = .ok value)
    (asksFor : source.AsksFor address asked) :
    ∃ known, source.approximation round asked = .ok known := by
  obtain ⟨formula, present, asks⟩ := asksFor
  have yields : (source.inquiry address formula).Yields (fun _ => True)
      (fun asked value => source.approximation round asked = .ok value) _ :=
    yields_inquiry address fun _ _ => trivial
  rw [approximation, resultOf_formula present] at found
  rcases yields.answer with settled | ⟨error, -, failed⟩
  · exact settled.2 value found asked asks
  · cases found.symm.trans failed

/-- All that a cell with a value asks for, and what is asked for on the way, comes to a value. -/
theorem comesTo_of_reachable {address reached : Address} {value : Value}
    (comes : source.ComesTo address (.ok value))
    (leads : ReflTransGen source.AsksFor address reached) :
    ∃ known, source.ComesTo reached (.ok known) := by
  induction leads with
  | refl => exact ⟨value, comes⟩
  | tail _ asksFor ih =>
      obtain ⟨between, known⟩ := ih
      obtain ⟨round, found⟩ := known.reached.resolve_left (not_circular_ok between)
      cases round with
      | zero => cases found
      | succ round =>
          obtain ⟨last, valued⟩ := approximation_of_asksFor found asksFor
          exact ⟨last, comesTo_of_approximation valued (not_circular_ok last)⟩

end Source

end Spreadsheet.Sheet

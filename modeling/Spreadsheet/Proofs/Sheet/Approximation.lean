import Spreadsheet.Proofs.Sheet.Judgement

/-!
Results from below. At first every cell is taken to be circular; then again and again each cell is
computed from the results found before. A result that is not circular stays as it is, so each cell
comes to one result, or is circular forever: the least solution of the sheet.

The main statement is that whatever a cell comes to in this way is the only result that a walk can
find for it, up to the cell at which a circular reference is noticed.
-/

set_option autoImplicit false

namespace Spreadsheet.Sheet

def Circular {α : Type} (outcome : Outcome α) : Prop :=
  ∃ address, outcome = .error (.circular address)

/-- The same result, or two circular references that may have been noticed at different cells. -/
def SameUpToCircle {α : Type} (left right : Outcome α) : Prop :=
  left = right ∨ Circular left ∧ Circular right

/-- The first is the second, or is only circular so far. -/
def Settles {α : Type} (early late : Outcome α) : Prop :=
  Circular early ∨ early = late

theorem not_circular_ok {α : Type} (result : α) : ¬ Circular (.ok result : Outcome α) := by
  rintro ⟨address, same⟩
  cases same

theorem Settles.eq {α : Type} {early late : Outcome α} (settles : Settles early late)
    (settled : ¬ Circular early) : early = late :=
  settles.resolve_left settled

theorem Circular.answer_ask {α : Type} {look : Address → Outcome Value} {asked : Address}
    (circular : Circular (look asked)) (next : Value → Inquiry α) :
    Circular ((Inquiry.ask asked next).answer look) := by
  obtain ⟨address, same⟩ := circular
  refine ⟨address, ?_⟩
  rw [Inquiry.answer, same]
  rfl

namespace Inquiry

variable {α : Type}

theorem answer_ask_error {look : Address → Outcome Value} {asked : Address} {error : FormulaError}
    (failed : look asked = .error error) (next : Value → Inquiry α) :
    (Inquiry.ask asked next).answer look = .error error := by
  rw [answer, failed]
  rfl

theorem answer_ask_ok {look : Address → Outcome Value} {asked : Address} {value : Value}
    (found : look asked = .ok value) (next : Value → Inquiry α) :
    (Inquiry.ask asked next).answer look = (next value).answer look := by
  rw [answer, found]
  rfl

theorem settles_answer {early late : Address → Outcome Value}
    (settles : ∀ address, Settles (early address) (late address)) (inquiry : Inquiry α) :
    Settles (inquiry.answer early) (inquiry.answer late) := by
  induction inquiry with
  | done outcome => exact .inr rfl
  | ask asked next ih =>
      rcases settles asked with circular | same
      · exact .inl (circular.answer_ask next)
      · cases found : early asked with
        | error error =>
            rw [answer_ask_error found, answer_ask_error (same.symm.trans found)]
            exact .inr rfl
        | ok value =>
            rw [answer_ask_ok found, answer_ask_ok (same.symm.trans found)]
            exact ih value

end Inquiry

namespace Source

variable (source : Source)

def resultOf (look : Address → Outcome Value) (address : Address) : Outcome Value :=
  match source.grid.get? address with
  | none => .error (.reference (.missingCell address))
  | some text =>
      if isFormula text then source.outcomeOf look address text else .ok (Value.ofLiteral text)

def approximation : Nat → Address → Outcome Value
  | 0 => fun address => .error (.circular address)
  | round + 1 => source.resultOf (approximation round)

variable {source}

theorem resultOf_missing {address : Address} (absent : source.grid.get? address = none)
    (look : Address → Outcome Value) :
    source.resultOf look address = .error (.reference (.missingCell address)) := by
  rw [resultOf, absent]

theorem resultOf_literal {address : Address} {text : String}
    (present : source.grid.get? address = some text) (plain : isFormula text = false)
    (look : Address → Outcome Value) :
    source.resultOf look address = .ok (Value.ofLiteral text) := by
  simp only [resultOf, present, plain, Bool.false_eq_true, if_false]

theorem resultOf_formula {address : Address} {text : String}
    (present : source.FormulaAt address text) (look : Address → Outcome Value) :
    source.resultOf look address = (source.inquiry address text).answer look := by
  simp only [resultOf, present.1, present.2, if_true, outcomeOf_eq_answer]

theorem settles_resultOf {early late : Address → Outcome Value}
    (settles : ∀ address, Settles (early address) (late address)) (address : Address) :
    Settles (source.resultOf early address) (source.resultOf late address) := by
  unfold resultOf
  split
  · exact .inr rfl
  · split
    · rw [outcomeOf_eq_answer, outcomeOf_eq_answer]
      exact Inquiry.settles_answer settles _
    · exact .inr rfl

theorem settles_approximation (round : Nat) (address : Address) :
    Settles (source.approximation round address) (source.approximation (round + 1) address) := by
  induction round generalizing address with
  | zero => exact .inl ⟨address, rfl⟩
  | succ round ih => exact settles_resultOf ih address

theorem approximation_stays {early late : Nat} {address : Address} {outcome : Outcome Value}
    (order : early ≤ late) (found : source.approximation early address = outcome)
    (settled : ¬ Circular outcome) : source.approximation late address = outcome := by
  induction order with
  | refl => exact found
  | step order ih =>
      have same := (settles_approximation _ address).eq (ih.symm ▸ settled)
      rw [← same, ih]

variable (source)

/-- A cell demands another if it is circular for as long as the other is. -/
def Demands (address asked : Address) : Prop :=
  ∀ round, Circular (source.approximation round asked) →
    Circular (source.approximation (round + 1) address)

/-- What a cell comes to: in each round the result or still circular, and in some round the result
if it is not circular itself. -/
structure ComesTo (address : Address) (outcome : Outcome Value) : Prop where
  settles : ∀ round, Settles (source.approximation round address) outcome
  reached : Circular outcome ∨ ∃ round, source.approximation round address = outcome

variable {source}

theorem ComesTo.later {address : Address} {outcome : Outcome Value}
    (comes : source.ComesTo address outcome) (settled : ¬ Circular outcome) :
    ∃ first, ∀ round, first ≤ round → source.approximation round address = outcome := by
  obtain ⟨first, found⟩ := comes.reached.resolve_left settled
  exact ⟨first, fun round order => approximation_stays order found settled⟩

theorem ComesTo.sameUpToCircle {address : Address} {left right : Outcome Value}
    (first : source.ComesTo address left) (second : source.ComesTo address right) :
    SameUpToCircle left right := by
  by_cases leftCircular : Circular left
  · by_cases rightCircular : Circular right
    · exact .inr ⟨leftCircular, rightCircular⟩
    · obtain ⟨round, found⟩ := second.reached.resolve_left rightCircular
      have same := (first.settles round).eq (found ▸ rightCircular)
      exact .inl (same.symm.trans found)
  · obtain ⟨round, found⟩ := first.reached.resolve_left leftCircular
    have same := (second.settles round).eq (found ▸ leftCircular)
    exact .inl (found.symm.trans same)

theorem ComesTo.of_approximation_eq {other : Source} {address : Address} {outcome : Outcome Value}
    (comes : source.ComesTo address outcome)
    (same : ∀ round, source.approximation round address = other.approximation round address) :
    other.ComesTo address outcome where
  settles round := same round ▸ comes.settles round
  reached := comes.reached.imp id fun ⟨round, found⟩ => ⟨round, (same round).symm.trans found⟩

theorem comesTo_of_circular {address : Address} {outcome : Outcome Value}
    (always : ∀ round, Circular (source.approximation round address))
    (circular : Circular outcome) : source.ComesTo address outcome where
  settles round := .inl (always round)
  reached := .inl circular

theorem comesTo_of_resultOf {address : Address} {outcome : Outcome Value}
    (same : ∀ look, source.resultOf look address = outcome) : source.ComesTo address outcome where
  settles round := by
    cases round with
    | zero => exact .inl ⟨address, rfl⟩
    | succ round => exact .inr (same _)
  reached := .inr ⟨1, same _⟩

theorem circular_of_demands {address : Address}
    (circle : Relation.TransGen source.Demands address address) (round : Nat) :
    Circular (source.approximation round address) := by
  induction round generalizing address with
  | zero => exact ⟨address, rfl⟩
  | succ round ih =>
      obtain ⟨next, demands, back⟩ := Relation.TransGen.head'_iff.1 circle
      exact demands round (ih (.tail' back demands))

/-- So far the questions of a cell were answered with what the asked cells come to, and the inquiry
is what is left of them. -/
structure Continues (source : Source) (address : Address) (inquiry : Inquiry Value) : Prop where
  settles : ∀ round, Settles (source.approximation (round + 1) address)
    (inquiry.answer (source.approximation round))
  follows : ∃ first, ∀ round, first ≤ round →
    source.approximation (round + 1) address = inquiry.answer (source.approximation round)

theorem continues_inquiry {address : Address} {text : String}
    (present : source.FormulaAt address text) :
    source.Continues address (source.inquiry address text) where
  settles _ := .inr (resultOf_formula present _)
  follows := ⟨0, fun _ _ => resultOf_formula present _⟩

theorem Continues.comesTo {address : Address} {outcome : Outcome Value}
    (continues : source.Continues address (.done outcome)) : source.ComesTo address outcome where
  settles round := by
    cases round with
    | zero => exact .inl ⟨address, rfl⟩
    | succ round => exact continues.settles round
  reached := by
    obtain ⟨first, found⟩ := continues.follows
    exact .inr ⟨first + 1, found first (Nat.le_refl _)⟩

theorem Continues.demands {address asked : Address} {next : Value → Inquiry Value}
    (continues : source.Continues address (.ask asked next)) : source.Demands address asked := by
  intro round circular
  rcases continues.settles round with already | same
  · exact already
  · rw [same]
    exact circular.answer_ask next

theorem Continues.fails {address asked : Address} {next : Value → Inquiry Value}
    {error : FormulaError} (continues : source.Continues address (.ask asked next))
    (comes : source.ComesTo asked (.error error)) : source.ComesTo address (.error error) where
  settles round := by
    cases round with
    | zero => exact .inl ⟨address, rfl⟩
    | succ round =>
        rcases comes.settles round with circular | failed
        · exact .inl (continues.demands round circular)
        · rw [← Inquiry.answer_ask_error failed next]
          exact continues.settles round
  reached := by
    by_cases circular : Circular (.error error : Outcome Value)
    · exact .inl circular
    · obtain ⟨known, failed⟩ := comes.later circular
      obtain ⟨first, found⟩ := continues.follows
      refine .inr ⟨max known first + 1, ?_⟩
      rw [found _ (Nat.le_max_right _ _)]
      exact Inquiry.answer_ask_error (failed _ (Nat.le_max_left _ _)) next

theorem Continues.answered {address asked : Address} {next : Value → Inquiry Value} {value : Value}
    (continues : source.Continues address (.ask asked next))
    (comes : source.ComesTo asked (.ok value)) : source.Continues address (next value) where
  settles round := by
    rcases comes.settles round with circular | found
    · exact .inl (continues.demands round circular)
    · rw [← Inquiry.answer_ask_ok found next]
      exact continues.settles round
  follows := by
    obtain ⟨known, valued⟩ := comes.later (not_circular_ok value)
    obtain ⟨first, found⟩ := continues.follows
    refine ⟨max known first, fun round order => ?_⟩
    rw [found round (Nat.le_trans (Nat.le_max_right _ _) order)]
    exact Inquiry.answer_ask_ok (valued round (Nat.le_trans (Nat.le_max_left _ _) order)) next

theorem Continues.follows_inquiry {address : Address} {inquiry : Inquiry Value}
    (continues : source.Continues address inquiry) :
    inquiry.Follows source.Demands source.ComesTo address := by
  induction inquiry with
  | done outcome => exact .done continues.comesTo
  | ask asked next ih =>
      exact .ask continues.demands (fun error comes => continues.fails comes)
        (fun value comes => ih value (continues.answered comes))

end Source

end Spreadsheet.Sheet

import Spreadsheet.Proofs.Sheet.References
import Spreadsheet.Proofs.Sheet.Results

/-!
Circles of references. A cell refers to those that the references of its formula cover. Whatever was
visited before, and whatever the limits are, a circular reference is reported only where a circle
can be reached, and names a cell on it; and where a circle can be reached no value is found.

The main statement says so of an evaluation. Cells that merely share a reference are no circle, so a
sheet without circles has no circular references.
-/

set_option autoImplicit false

namespace Spreadsheet.Sheet

open Relation (ReflTransGen TransGen)

theorem not_circle_of_acc {Refers : Address → Address → Prop} {address named : Address}
    (grounded : Acc (fun referred from_ => Refers from_ referred) address)
    (leads : ReflTransGen Refers address named) : ¬ TransGen Refers named named := by
  induction grounded generalizing named with
  | intro address below ih =>
      intro circle
      obtain ⟨next, refers, back⟩ :
          ∃ next, Refers address next ∧ ReflTransGen Refers next named := by
        rcases ReflTransGen.cases_head leads with same | ⟨next, refers, rest⟩
        · rw [same]
          exact TransGen.head'_iff.1 circle
        · exact ⟨next, refers, rest⟩
      exact ih next refers back circle

namespace Source

variable {source : Source}

/-- A sheet in memory has fewer cells than 64 bits can count. -/
def Countable (source : Source) : Prop :=
  source.grid.addresses.length < coordinateLimit

instance (source : Source) : Decidable source.Countable :=
  inferInstanceAs (Decidable (_ < _))

/-- A circular reference names a cell on a circle that can be reached, and a value is found only
where there is a cell and, in a sheet that can be counted, nothing leads on forever. -/
structure Explained (source : Source) (address : Address) (outcome : Outcome Value) : Prop where
  circle : ∀ named, outcome = .error (.circular named) →
    ReflTransGen source.RefersTo address named ∧ TransGen source.RefersTo named named
  there : ∀ value, outcome = .ok value → address ∈ source.grid.addresses
  grounded : source.Countable → ∀ value, outcome = .ok value →
    Acc (fun referred from_ => source.RefersTo from_ referred) address

theorem explained_error {address : Address} {error : FormulaError}
    (plain : error.isCircular = false) : source.Explained address (.error error) where
  circle := by
    rintro named ⟨⟩
    cases plain
  there := nofun
  grounded _ := nofun

theorem explained_literal {address : Address} {text : String}
    (present : source.grid.get? address = some text) (plain : isFormula text = false)
    (value : Value) : source.Explained address (.ok value) where
  circle := nofun
  there _ _ := (source.grid.mem_addresses_iff _).2 (Option.isSome_of_eq_some present)
  grounded := by
    intro _ _ _
    constructor
    rintro referred ⟨formula, ⟨there, isOne⟩, mentions⟩
    cases present.symm.trans there
    rw [plain] at isOne
    cases isOne

theorem Explained.fails {address referred : Address} {error : FormulaError}
    (refers : source.RefersTo address referred)
    (explained : source.Explained referred (.error error)) :
    source.Explained address (.error error) where
  circle := by
    intro named failed
    obtain ⟨leads, circle⟩ := explained.circle named failed
    exact ⟨.head refers leads, circle⟩
  there := nofun
  grounded _ := nofun

/-- Where a sheet that can be counted has all cells that a formula asks for, these are all cells
that the formula mentions. -/
theorem asks_of_mentions {formula : String} {referred : Address} (countable : source.Countable)
    (there : ∀ asked, Asks formula asked → asked ∈ source.grid.addresses)
    (mentions : Mentions formula referred) : Asks formula referred := by
  obtain ⟨program, target, read, inside, covered⟩ := mentions
  refine ⟨program, target, read, inside, ?_⟩
  refine (Reference.mem_or_length_of_covers covered).resolve_right fun many => ?_
  have listed : target.addresses ⊆ source.grid.addresses :=
    fun asked member => there asked ⟨program, target, read, inside, member⟩
  have bounded := (List.subperm_of_subset target.nodup_addresses listed).length_le
  rw [many] at bounded
  exact Nat.not_le_of_lt countable bounded

theorem explained_formula {address : Address} {formula : String} {outcome : Outcome Value}
    (present : source.FormulaAt address formula)
    (settled : Inquiry.Settled (fun _ : Value =>
      ∀ asked, Asks formula asked → ∃ value, source.Explained asked (.ok value)) outcome) :
    source.Explained address outcome where
  circle := by
    intro named failed
    have plain := settled.1 _ failed
    cases plain
  there _ _ := (source.grid.mem_addresses_iff _).2 (Option.isSome_of_eq_some present.1)
  grounded := by
    intro countable value found
    have asked := settled.2 value found
    constructor
    rintro referred ⟨again, there, mentions⟩
    cases present.1.symm.trans there.1
    have asks : Asks formula referred := by
      refine asks_of_mentions countable (fun cell asks => ?_) mentions
      obtain ⟨known, explained⟩ := asked cell asks
      exact explained.there known rfl
    obtain ⟨known, explained⟩ := asked referred asks
    exact explained.grounded countable known rfl

def explanation (source : Source) : Judgement source where
  Needs := source.RefersTo
  Right := source.Explained
  circular := by
    intro address circle
    constructor
    · rintro named ⟨⟩
      exact ⟨.refl, circle⟩
    · nofun
    · nofun
  chainTooLong _ _ _ _ := explained_error rfl
  missing _ := explained_error rfl
  literal present plain := explained_literal present plain _
  formula := by
    intro address formula present draws
    have yields : (source.drawnInquiry draws address formula).Yields (source.RefersTo address)
        (fun asked value => source.Explained asked (.ok value)) _ :=
      yields_inquiry address fun asked asks => ⟨formula, present, asks.mentions⟩
    exact yields.follows (fun asked error refers explained => explained.fails refers)
      (fun outcome settled => explained_formula present settled)

/-- Circular references are reported where there is a circle and nowhere else, whatever is drawn. A
reported one names a cell on a circle that can be reached from the cell; a cell from which a circle
can be reached has an error for its result; without circles no circular reference is reported. -/
theorem circles_reported (source : Source) :
    (∀ address named, source.outcome? address = some (.error (.circular named)) →
        ReflTransGen source.RefersTo address named ∧ TransGen source.RefersTo named named) ∧
      (source.Countable → ∀ address named, ReflTransGen source.RefersTo address named →
        TransGen source.RefersTo named named →
        ∃ error, source.outcome? address = some (.error error)) ∧
      ((∀ address, ¬ TransGen source.RefersTo address address) →
        ∀ address named, source.outcome? address ≠ some (.error (.circular named))) := by
  have sound (address named : Address)
      (reported : source.outcome? address = some (.error (.circular named))) :
      ReflTransGen source.RefersTo address named ∧ TransGen source.RefersTo named named :=
    (source.explanation.right_of_outcome reported).circle named rfl
  refine ⟨sound, ?_, ?_⟩
  · intro countable address named leads circle
    obtain ⟨next, formula, present, mentions⟩ : ∃ next, source.RefersTo address next := by
      rcases ReflTransGen.cases_head leads with same | ⟨next, refers, rest⟩
      · obtain ⟨next, refers, back⟩ := TransGen.head'_iff.1 circle
        exact ⟨next, same ▸ refers⟩
      · exact ⟨next, refers⟩
    obtain ⟨outcome, evaluated⟩ := source.explanation.evaluated present
    cases outcome with
    | error error => exact ⟨error, evaluated⟩
    | ok value =>
        have explained := source.explanation.right_of_outcome evaluated
        have grounded := explained.grounded countable value rfl
        exact absurd circle (not_circle_of_acc grounded leads)
  · intro none_there address named reported
    exact none_there named (sound address named reported).2

def ringSheet : Source where
  grid := { rows := [["=B1+1", "=A1", "7"], ["=C1*B1"]] }
  tableId := "ring"
  options := { maxDepth := 10, maxRangeCells := 10 }
  draws _ _ := .lowest

def sharedSheet : Source where
  grid := { rows := [["=B1+C1", "=SUM(C1:D1)", "7", "8"]] }
  tableId := "shared"
  options := { maxDepth := 10, maxRangeCells := 10 }
  draws _ _ := .lowest

theorem circles_reported_ringSheet :
    (ringSheet.outcome? ⟨1, 0⟩ = some (.error (.circular ⟨0, 0⟩)) ∧
      ReflTransGen ringSheet.RefersTo ⟨1, 0⟩ ⟨0, 0⟩ ∧ TransGen ringSheet.RefersTo ⟨0, 0⟩ ⟨0, 0⟩) ∧
    (∃ error, ringSheet.outcome? ⟨1, 0⟩ = some (.error error)) ∧
    (∀ address, ¬ TransGen sharedSheet.RefersTo address address) ∧
    ∀ address named, sharedSheet.outcome? address ≠ some (.error (.circular named)) := by
  have reported : ringSheet.outcome? ⟨1, 0⟩ = some (.error (.circular ⟨0, 0⟩)) := by decide +kernel
  obtain ⟨leads, circle⟩ := (circles_reported ringSheet).1 _ _ reported
  have none_there : ∀ address, ¬ TransGen sharedSheet.RefersTo address address :=
    not_circle_of_rank Address.column (RefersTo.of_mentioned?
      (fun address referred => address.column < referred.column) (by decide +kernel))
  have failed := (circles_reported ringSheet).2.1 (by decide +kernel) _ _ leads circle
  exact ⟨⟨reported, leads, circle⟩, failed, none_there,
    (circles_reported sharedSheet).2.2 none_there⟩

end Source

end Spreadsheet.Sheet

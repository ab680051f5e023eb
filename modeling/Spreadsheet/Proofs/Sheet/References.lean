import Spreadsheet.Proofs.CellRange
import Spreadsheet.Proofs.Failure.Evaluation
import Spreadsheet.Proofs.Sheet.Judgement

/-!
What a formula refers to and what it asks for. A formula mentions the cells that its references
cover, single cells and the cells between the corners of a block. Its inquiry asks for cells that it
mentions, and has a value only after all of those have been answered that can be counted in their
block.

The main statement is a rule for inquiries in this sense: what follows from some good answers for
all cells that are asked for holds of the value of the formula, and without such answers the formula
fails as an asked cell does or with an error of its own.
-/

set_option autoImplicit false

namespace Spreadsheet.Sheet

namespace Inquiry

variable {α β : Type} {Allowed : Address → Prop} {Good : Address → Value → Prop}

/-- Answered with good values, the inquiry asks for allowed cells only and ends as `Post` says. -/
inductive Yields (Allowed : Address → Prop) (Good : Address → Value → Prop)
    (Post : Outcome α → Prop) : Inquiry α → Prop
  | done {outcome : Outcome α} (holds : Post outcome) : Yields Allowed Good Post (.done outcome)
  | ask {asked : Address} {next : Value → Inquiry α} (allowed : Allowed asked)
      (following : ∀ value, Good asked value → Yields Allowed Good Post (next value)) :
      Yields Allowed Good Post (.ask asked next)

theorem Yields.mono {Post Weaker : Outcome α → Prop} {inquiry : Inquiry α}
    (yields : inquiry.Yields Allowed Good Post)
    (weaker : ∀ outcome, Post outcome → Weaker outcome) :
    inquiry.Yields Allowed Good Weaker := by
  induction yields with
  | done holds => exact .done (weaker _ holds)
  | ask allowed following ih => exact .ask allowed ih

theorem Yields.bind {Mid : Outcome α → Prop} {Post : Outcome β → Prop} {inquiry : Inquiry α}
    {next : α → Inquiry β} (first : inquiry.Yields Allowed Good Mid)
    (fails : ∀ error, Mid (.error error) → Post (.error error))
    (continues : ∀ result, Mid (.ok result) → (next result).Yields Allowed Good Post) :
    (inquiry >>= next).Yields Allowed Good Post := by
  induction first with
  | @done outcome holds =>
      cases outcome with
      | error error => exact .done (fails error holds)
      | ok result => exact continues result holds
  | ask allowed following ih => exact .ask allowed ih

theorem Yields.follows {Needs : Address → Address → Prop} {Right : Address → Outcome Value → Prop}
    {address : Address} {Post : Outcome Value → Prop} {inquiry : Inquiry Value}
    (yields : inquiry.Yields (Needs address) (fun asked value => Right asked (.ok value)) Post)
    (fails : ∀ asked error, Needs address asked → Right asked (.error error) →
      Right address (.error error))
    (right : ∀ outcome, Post outcome → Right address outcome) :
    inquiry.Follows Needs Right address := by
  induction yields with
  | done holds => exact .done (right _ holds)
  | @ask asked next allowed following ih =>
      exact .ask allowed (fun error failed => fails asked error allowed failed) ih

def Settled (Holds : α → Prop) (outcome : Outcome α) : Prop :=
  FailsOnly FormulaError.Own outcome ∧ ∀ result, outcome = .ok result → Holds result

theorem settled_ok {Holds : α → Prop} {result : α} (holds : Holds result) :
    Settled Holds (.ok result) := by
  constructor
  · exact failsOnly_ok result
  · intro _ found
    cases found
    exact holds

theorem settled_error {Holds : α → Prop} {error : FormulaError} (own : FormulaError.Own error) :
    Settled Holds (.error error) := by
  constructor
  · exact failsOnly_error own
  · intro result found
    cases found

theorem settled_of_failsOnly {outcome : Outcome α} (fails : FailsOnly FormulaError.Own outcome) :
    Settled (fun _ => True) outcome := by
  refine ⟨fails, ?_⟩
  intro _ _
  trivial

theorem Yields.bindSettled {First : α → Prop} {Second : β → Prop} {inquiry : Inquiry α}
    {next : α → Inquiry β} (first : inquiry.Yields Allowed Good (Settled First))
    (continues : ∀ result, First result → (next result).Yields Allowed Good (Settled Second)) :
    (inquiry >>= next).Yields Allowed Good (Settled Second) := by
  refine first.bind (fun error settled => settled_error (settled.1 error rfl)) ?_
  exact fun result settled => continues result (settled.2 result rfl)

theorem yields_cell {asked : Address} (allowed : Allowed asked) :
    (cell asked).Yields Allowed Good (Settled (Good asked)) :=
  .ask allowed fun _ good => .done (settled_ok good)

theorem yields_mapM {act : α → Inquiry β} {Holds : α → β → Prop} (items : List α)
    (each : ∀ item ∈ items, (act item).Yields Allowed Good (Settled (Holds item))) :
    (items.mapM act).Yields Allowed Good (Settled (List.Forall₂ Holds items)) := by
  induction items with
  | nil => exact .done (settled_ok .nil)
  | cons item rest ih =>
      rw [List.mapM_cons]
      apply (each item List.mem_cons_self).bindSettled
      intro first holds
      have following := ih fun other member => each other (List.mem_cons_of_mem _ member)
      exact following.bindSettled fun others holdRest => .done (settled_ok (.cons holds holdRest))

end Inquiry

open Inquiry (Settled settled_ok settled_error settled_of_failsOnly yields_cell yields_mapM)

/-- The formula has a reference that covers the cell: it names the cell, or a block in which the
cell lies. -/
def Mentions (formula : String) (address : Address) : Prop :=
  ∃ program target, Source.programOf formula = .ok program ∧ target ∈ program.references ∧
    target.covers address = true

/-- The formula has a reference with the cell in its list. These are the mentioned cells, except
that the list of a block ends where its cells can no longer be counted. -/
def Asks (formula : String) (address : Address) : Prop :=
  ∃ program target, Source.programOf formula = .ok program ∧ target ∈ program.references ∧
    address ∈ target.addresses

theorem Asks.mentions {formula : String} {address : Address} (asks : Asks formula address) :
    Mentions formula address := by
  obtain ⟨program, target, read, inside, listed⟩ := asks
  exact ⟨program, target, read, inside, Reference.covers_of_mem listed⟩

def mentioned? (formula : String) : Option (List Address) :=
  match Source.programOf formula with
  | .error _ => some []
  | .ok program =>
      if ∀ target ∈ program.references, target.addresses.length < coordinateLimit then
        some (program.references.flatMap Reference.addresses)
      else none

theorem mem_of_mentioned? {formula : String} {cells : List Address} {address : Address}
    (listed : mentioned? formula = some cells) (mentions : Mentions formula address) :
    address ∈ cells := by
  obtain ⟨program, target, read, inside, covered⟩ := mentions
  unfold mentioned? at listed
  rw [read] at listed
  dsimp only at listed
  by_cases few : ∀ target ∈ program.references, target.addresses.length < coordinateLimit
  · rw [if_pos few] at listed
    rw [← Option.some.inj listed]
    have uncut := Nat.ne_of_lt (few target inside)
    refine List.mem_flatMap.2 ⟨target, inside, ?_⟩
    exact (Reference.mem_or_length_of_covers covered).resolve_right uncut
  · rw [if_neg few] at listed
    cases listed

namespace Source

/-- The cell holds a formula with a reference that covers the other cell. -/
def RefersTo (source : Source) (address referred : Address) : Prop :=
  ∃ formula, source.FormulaAt address formula ∧ Mentions formula referred

def AsksFor (source : Source) (address asked : Address) : Prop :=
  ∃ formula, source.FormulaAt address formula ∧ Asks formula asked

theorem RefersTo.of_mentioned? {source : Source} (Holds : Address → Address → Prop)
    (each : ∀ address ∈ source.formulaCells, ∀ formula ∈ source.grid.get? address,
      ∃ cells ∈ mentioned? formula, ∀ referred ∈ cells, Holds address referred)
    {address referred : Address} (refers : source.RefersTo address referred) :
    Holds address referred := by
  obtain ⟨formula, present, mentions⟩ := refers
  obtain ⟨cells, listed, holds⟩ := each _ (mem_formulaCells present) formula present.1
  exact holds _ (mem_of_mentioned? listed mentions)

theorem not_circle_of_rank {source : Source} (rank : Address → Nat)
    (ascends : ∀ {address referred}, source.RefersTo address referred →
      rank address < rank referred) (address : Address) :
    ¬ Relation.TransGen source.RefersTo address address := by
  intro circle
  have higher {first last : Address} (leads : Relation.TransGen source.RefersTo first last) :
      rank first < rank last := by
    induction leads with
    | single refers => exact ascends refers
    | tail earlier refers ih => exact Nat.lt_trans ih (ascends refers)
  exact Nat.lt_irrefl _ (higher circle)

variable {source : Source} {Allowed : Address → Prop} {Good : Address → Value → Prop}

theorem failsOnly_checkRange (block : CellRange) :
    FailsOnly FormulaError.Own (source.checkRange block) := by
  unfold checkRange
  split
  · rename_i missing _
    exact failsOnly_error (.missingCell missing)
  · exact .ite (failsOnly_error (.rangeTooLarge block _)) (failsOnly_ok _)

theorem yields_inquire {target : Reference} (allowed : ∀ asked ∈ target.addresses, Allowed asked) :
    (source.inquire target).Yields Allowed Good
      (Settled fun _ => ∀ asked ∈ target.addresses, ∃ value, Good asked value) := by
  cases target with
  | cell address =>
      apply (yields_cell (allowed address List.mem_cons_self)).bindSettled
      intro value good
      refine .done (settled_ok ?_)
      intro asked member
      rw [List.mem_singleton.1 member]
      exact ⟨value, good⟩
  | range block =>
      have checked : (Inquiry.done (source.checkRange block)).Yields Allowed Good
          (Settled fun _ => True) := .done (settled_of_failsOnly (failsOnly_checkRange block))
      apply checked.bindSettled
      intro _ _
      have each : ∀ one ∈ block.cells, (Inquiry.cell one).Yields Allowed Good
          (Settled (Good one)) := fun one member => yields_cell (allowed one member)
      apply (yields_mapM block.cells each).bindSettled
      intro values good
      have known : List.Forall₂ (fun asked _ => (∃ value, Good asked value) ∧ True) block.cells
          values := good.imp fun asked value holds => ⟨⟨value, holds⟩, trivial⟩
      exact .done (settled_ok ((List.forall₂_and_left _ _).1 known).1)

theorem yields_item {item : Item} (allowed : ∀ target, item.reference? = some target →
    ∀ asked ∈ target.addresses, Allowed asked) :
    (Item.resolveWith source.inquire item).Yields Allowed Good
      (Settled fun found => (∀ target, item.reference? = some target →
        ∀ asked ∈ target.addresses, ∃ value, Good asked value) ∧ item.FilledBy found) := by
  cases item with
  | reference target =>
      apply (yields_inquire (allowed target rfl)).bindSettled
      intro operand known
      refine .done (settled_ok ⟨?_, .reference target operand⟩)
      rintro _ ⟨⟩
      exact known
  | literal value => exact .done (settled_ok ⟨by rintro _ ⟨⟩, .same rfl⟩)
  | resolved operand => exact .done (settled_ok ⟨by rintro _ ⟨⟩, .same rfl⟩)
  | name given => exact .done (settled_ok ⟨by rintro _ ⟨⟩, .same rfl⟩)
  | operator operator => exact .done (settled_ok ⟨by rintro _ ⟨⟩, .same rfl⟩)
  | call function count => exact .done (settled_ok ⟨by rintro _ ⟨⟩, .same rfl⟩)

theorem yields_resolveWith {program : Program}
    (allowed : ∀ target ∈ program.references, ∀ asked ∈ target.addresses, Allowed asked) :
    (program.resolveWith source.inquire).Yields Allowed Good
      (Settled fun filled => (∀ target ∈ program.references, ∀ asked ∈ target.addresses,
        ∃ value, Good asked value) ∧ List.Forall₂ Item.FilledBy program filled) := by
  have each : ∀ item ∈ program, (Item.resolveWith source.inquire item).Yields Allowed Good
      (Settled fun found => (∀ target, item.reference? = some target →
        ∀ asked ∈ target.addresses, ∃ value, Good asked value) ∧ item.FilledBy found) :=
    fun item member => yields_item fun target same =>
      allowed target (List.mem_filterMap.2 ⟨item, member, same⟩)
  refine (yields_mapM program each).mono fun outcome settled => ⟨settled.1, ?_⟩
  intro result found
  obtain ⟨known, fills⟩ := (List.forall₂_and_left _ _).1 (settled.2 result found)
  refine ⟨?_, fills⟩
  intro target member
  obtain ⟨item, inside, same⟩ := List.mem_filterMap.1 member
  exact known item inside target same

theorem yields_resolution {formula : String}
    (allowed : ∀ asked, Asks formula asked → Allowed asked) :
    (source.resolution formula).Yields Allowed Good
      (Settled fun filled => (∀ asked, Asks formula asked → ∃ value, Good asked value) ∧
        ∃ program, programOf formula = .ok program ∧
          List.Forall₂ Item.FilledBy program filled) := by
  rw [resolution]
  cases read : programOf formula with
  | error error => exact .done (settled_error (Program.failsOnly_parse _ error read).isOwn)
  | ok program =>
      have inside : ∀ target ∈ program.references, ∀ asked ∈ target.addresses, Allowed asked :=
        fun target member asked listed => allowed asked ⟨program, target, read, member, listed⟩
      refine (yields_resolveWith inside).mono fun outcome settled => ⟨settled.1, ?_⟩
      intro filled found
      obtain ⟨known, fills⟩ := settled.2 filled found
      refine ⟨?_, program, rfl, fills⟩
      rintro asked ⟨again, target, same, member, listed⟩
      cases read.symm.trans same
      exact known target member asked listed

/-- The formula asks for what is listed, has a value only after all of it is answered, and fails by
itself with errors of its own only, whatever is drawn. -/
theorem yields_inquiry {draws : Draws} {formula : String} (address : Address)
    (allowed : ∀ asked, Asks formula asked → Allowed asked) :
    (source.drawnInquiry draws address formula).Yields Allowed Good
      (Settled fun _ => ∀ asked, Asks formula asked → ∃ value, Good asked value) := by
  apply (yields_resolution allowed).bindSettled
  rintro filled ⟨known, program, read, fills⟩
  have fits : Program.heightAfter 0 filled = some 1 := by
    rw [Program.heightAfter_filled fills]
    exact Program.heightAfter_of_parse read
  have fails : FailsOnly FormulaError.Own
      (Program.evaluate ((source.context.drawing draws).withCell address) filled) :=
    Program.failsOnly_evaluate rfl (Program.reference?_of_filled fills) fits
  exact .done ⟨fails, fun _ _ => known⟩

end Source

end Spreadsheet.Sheet

import Spreadsheet.Proofs.Sheet.Visit

/-!
The course of a visit. A visit ends at once or answers the questions of a formula, one after the
other and each by a visit with less room; the first failure is the outcome, and then nothing more is
visited. As a derivation with one rule for each of these cases a visit can be reasoned about by
induction on its course, and its definition is no longer needed.

The main statements are that every visit has such a course, and that memory only grows: what was
known stays as it is, and what is known in addition is the settled result of a formula cell.
-/

set_option autoImplicit false

namespace Spreadsheet.Sheet

namespace Source

mutual

/-- Visiting a cell over a path with room for some more cells: the memory before, the outcome, and
the memory after. -/
inductive Visits (source : Source) :
    Nat → List Address → Address → Walk → Outcome Value → Walk → Prop
  | settled {room : Nat} {path : List Address} {address : Address} {walk : Walk}
      {outcome : Outcome Value} (known : walk.progress[address]? = some (.settled outcome)) :
      Visits source room path address walk outcome walk
  | pending {room : Nat} {path : List Address} {address : Address} {walk : Walk}
      (known : walk.progress[address]? = some .pending) :
      Visits source room path address walk (.error (.circular address)) walk
  | circular {room : Nat} {path : List Address} {address : Address} {walk : Walk}
      (unknown : walk.progress[address]? = none) (onPath : address ∈ path) :
      Visits source room path address walk (.error (.circular address)) walk
  | tooLong {path : List Address} {address : Address} {walk : Walk}
      (unknown : walk.progress[address]? = none) (offPath : address ∉ path) :
      Visits source 0 path address walk
        (.error (.reference (.chainTooLong address source.options.maxDepth)))
        { walk with depthLimited := true }
  | missing {room : Nat} {path : List Address} {address : Address} {walk : Walk}
      (unknown : walk.progress[address]? = none) (offPath : address ∉ path)
      (absent : source.grid.get? address = none) :
      Visits source (room + 1) path address walk (.error (.reference (.missingCell address))) walk
  | literal {room : Nat} {path : List Address} {address : Address} {walk : Walk} {text : String}
      (unknown : walk.progress[address]? = none) (offPath : address ∉ path)
      (present : source.grid.get? address = some text) (plain : isFormula text = false) :
      Visits source (room + 1) path address walk (.ok (Value.ofLiteral text)) walk
  | formula {room : Nat} {path : List Address} {address : Address} {walk after : Walk}
      {text : String} {draws : Draws} {outcome : Outcome Value}
      (unknown : walk.progress[address]? = none) (offPath : address ∉ path)
      (present : source.FormulaAt address text)
      (answers : Answers source room (address :: path) (source.drawnInquiry draws address text)
        (walk.enter address) outcome after) :
      Visits source (room + 1) path address walk outcome (after.leave address outcome)

/-- Answering the questions of an inquiry by visits, up to the first failure. -/
inductive Answers (source : Source) :
    Nat → List Address → Inquiry Value → Walk → Outcome Value → Walk → Prop
  | done {room : Nat} {path : List Address} {walk : Walk} (outcome : Outcome Value) :
      Answers source room path (.done outcome) walk outcome walk
  | failed {room : Nat} {path : List Address} {asked : Address} {next : Value → Inquiry Value}
      {walk after : Walk} {error : FormulaError}
      (visits : Visits source room path asked walk (.error error) after) :
      Answers source room path (.ask asked next) walk (.error error) after
  | answered {room : Nat} {path : List Address} {asked : Address} {next : Value → Inquiry Value}
      {walk between after : Walk} {value : Value} {outcome : Outcome Value}
      (visits : Visits source room path asked walk (.ok value) between)
      (answers : Answers source room path (next value) between outcome after) :
      Answers source room path (.ask asked next) walk outcome after

end

variable {source : Source}

theorem answers_walk {room : Nat} {path : List Address} {visit : Address → Walking Value}
    (visits : ∀ asked walk, source.Visits room path asked walk ((visit asked).run walk).1
      ((visit asked).run walk).2) (inquiry : Inquiry Value) (walk : Walk) :
    source.Answers room path inquiry walk ((inquiry.walk visit).run walk).1
      ((inquiry.walk visit).run walk).2 := by
  induction inquiry generalizing walk with
  | done outcome => exact .done outcome
  | ask asked next ih =>
      have first := visits asked walk
      rw [Inquiry.walk, Walking.run_bind]
      rcases answered : (visit asked).run walk with ⟨outcome, between⟩
      rw [answered] at first
      cases outcome with
      | error error => exact .failed first
      | ok value => exact .answered first (ih value between)

theorem answers_compute {room : Nat} {path : List Address} {visit : Address → Walking Value}
    (visits : ∀ asked walk, source.Visits room path asked walk ((visit asked).run walk).1
      ((visit asked).run walk).2) (address : Address) (formula : String) (walk : Walk) :
    ∃ draws, source.Answers room path (source.drawnInquiry draws address formula) walk
      ((source.compute visit address formula).run walk).1
      ((source.compute visit address formula).run walk).2 := by
  obtain ⟨draws, same⟩ := source.exists_run_compute visit address formula walk
  rw [same]
  exact ⟨draws, answers_walk visits _ walk⟩

/-- Every visit has its course. The induction is on the room that is left. -/
theorem visits_visit (source : Source) (room : Nat) (path : List Address) (address : Address)
    (walk : Walk) :
    source.Visits room path address walk ((source.visit room path address).run walk).1
      ((source.visit room path address).run walk).2 := by
  induction room using Nat.strongRecOn generalizing path address walk with
  | ind room ih =>
      have visited := source.visited room path address walk
      generalize (source.visit room path address).run walk = found at visited ⊢
      cases visited with
      | settled known => exact .settled known
      | pending known => exact .pending known
      | circular unknown onPath => exact .circular unknown onPath
      | tooLong unknown offPath => exact .tooLong unknown offPath
      | missing unknown offPath absent => exact .missing unknown offPath absent
      | literal unknown offPath present plain => exact .literal unknown offPath present plain
      | @formula roomBelow text outcome after unknown offPath present computed =>
          obtain ⟨draws, answers⟩ := answers_compute
            (fun asked walk => ih roomBelow (Nat.lt_succ_self _) (address :: path) asked walk)
            address text (walk.enter address)
          rw [computed] at answers
          exact .formula unknown offPath present answers

/-- What was known stays known, and what is known in addition is the settled result of a formula
cell. -/
def Grows (source : Source) (walk after : Walk) : Prop :=
  ∀ address, after.progress[address]? = walk.progress[address]? ∨
    walk.progress[address]? = none ∧ (∃ text, source.FormulaAt address text) ∧
      ∃ outcome, after.progress[address]? = some (.settled outcome)

theorem grows_of_progress_eq {walk after : Walk} (same : after.progress = walk.progress) :
    source.Grows walk after := by
  intro address
  exact .inl (by rw [same])

theorem Grows.trans {walk between after : Walk} (first : source.Grows walk between)
    (second : source.Grows between after) : source.Grows walk after := by
  intro address
  rcases first address with unchanged | ⟨unknown, formula, outcome, settled⟩
  · rcases second address with same | ⟨unknown, added⟩
    · exact .inl (same.trans unchanged)
    · exact .inr ⟨unchanged.symm.trans unknown, added⟩
  · rcases second address with same | ⟨still, -⟩
    · exact .inr ⟨unknown, formula, outcome, same.trans settled⟩
    · rw [settled] at still
      cases still

theorem Grows.keeps {walk after : Walk} (grows : source.Grows walk after) {address : Address}
    {progress : Progress} (known : walk.progress[address]? = some progress) :
    after.progress[address]? = some progress := by
  rcases grows address with unchanged | ⟨unknown, -⟩
  · exact unchanged.trans known
  · rw [known] at unknown
    cases unknown

theorem Grows.pending {walk after : Walk} (grows : source.Grows walk after) {address : Address}
    (known : after.progress[address]? = some .pending) :
    walk.progress[address]? = some .pending := by
  rcases grows address with unchanged | ⟨-, -, outcome, settled⟩
  · exact unchanged.symm.trans known
  · rw [known] at settled
    cases settled

theorem Grows.settled_of_start {walk : Walk} (grows : source.Grows Walk.start walk)
    {address : Address} {progress : Progress} (known : walk.progress[address]? = some progress) :
    (∃ text, source.FormulaAt address text) ∧ ∃ outcome, progress = .settled outcome := by
  rcases grows address with unchanged | ⟨-, present, outcome, settled⟩
  · rw [known, Walk.progress_start] at unchanged
    cases unchanged
  · cases known.symm.trans settled
    exact ⟨present, outcome, rfl⟩

theorem grows_leave {walk after : Walk} {address : Address} {text : String}
    (unknown : walk.progress[address]? = none) (present : source.FormulaAt address text)
    (grows : source.Grows (walk.enter address) after) (outcome : Outcome Value) :
    source.Grows walk (after.leave address outcome) := by
  intro asked
  rw [Walk.progress_leave]
  by_cases same : address = asked
  · subst same
    rw [if_pos rfl]
    split
    · exact .inl unknown.symm
    · exact .inr ⟨unknown, ⟨text, present⟩, outcome, rfl⟩
  · rw [if_neg same]
    have others := grows asked
    rw [Walk.progress_enter, if_neg same] at others
    exact others

mutual

theorem Visits.grows {room : Nat} {path : List Address} {address : Address} {walk after : Walk}
    {outcome : Outcome Value} :
    source.Visits room path address walk outcome after → source.Grows walk after
  | .settled _ => grows_of_progress_eq rfl
  | .pending _ => grows_of_progress_eq rfl
  | .circular _ _ => grows_of_progress_eq rfl
  | .tooLong _ _ => grows_of_progress_eq rfl
  | .missing _ _ _ => grows_of_progress_eq rfl
  | .literal _ _ _ _ => grows_of_progress_eq rfl
  | .formula unknown _ present answers => grows_leave unknown present answers.grows _

theorem Answers.grows {room : Nat} {path : List Address} {inquiry : Inquiry Value}
    {walk after : Walk} {outcome : Outcome Value} :
    source.Answers room path inquiry walk outcome after → source.Grows walk after
  | .done _ => grows_of_progress_eq rfl
  | .failed visits => visits.grows
  | .answered visits answers => visits.grows.trans answers.grows

end

theorem visits_visitRoot (source : Source) (address : Address) (walk : Walk) :
    ∃ after, source.Visits source.options.maxDepth [] address { walk with depthLimited := false }
        (source.visitRoot address walk).1 after ∧
      (source.visitRoot address walk).2 = { after with depthLimited := false } :=
  ⟨_, source.visits_visit source.options.maxDepth [] address _, rfl⟩

theorem grows_visitRoot (source : Source) (address : Address) (walk : Walk) :
    source.Grows walk (source.visitRoot address walk).2 := by
  obtain ⟨after, visits, same⟩ := source.visits_visitRoot address walk
  rw [same]
  exact visits.grows

end Source

end Spreadsheet.Sheet

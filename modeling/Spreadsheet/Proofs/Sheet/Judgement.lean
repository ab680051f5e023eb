import Spreadsheet.Proofs.Sheet.Visit

/-!
What all walks through a sheet agree on. A judgement says which results are right for a cell and
which cells a cell needs, in such a way that a formula whose questions have right answers has a
right result, whatever is drawn. Nothing in it speaks of walks, of what they remember or of where
they started.

The main statements are that a walk that remembers right results finds right results and remembers
right results, whatever the path it is on, and that the same holds of any sequence of cells, each
visited as the start of its own path.
-/

set_option autoImplicit false

namespace Spreadsheet.Sheet

/-- Answered with right results, the inquiry of a cell asks for what the cell needs and ends with a
result that is right for the cell. -/
inductive Inquiry.Follows (Needs : Address → Address → Prop)
    (Right : Address → Outcome Value → Prop) (address : Address) : Inquiry Value → Prop
  | done {outcome : Outcome Value} (right : Right address outcome) :
      Follows Needs Right address (.done outcome)
  | ask {asked : Address} {next : Value → Inquiry Value} (needs : Needs address asked)
      (fails : ∀ error, Right asked (.error error) → Right address (.error error))
      (continues : ∀ value, Right asked (.ok value) → Follows Needs Right address (next value)) :
      Follows Needs Right address (.ask asked next)

structure Judgement (source : Source) where
  Needs : Address → Address → Prop
  Right : Address → Outcome Value → Prop
  circular : ∀ {address : Address}, Relation.TransGen Needs address address →
    Right address (.error (.circular address))
  chainTooLong : ∀ {path : List Address} (address : Address), path.Nodup →
    (∀ passed ∈ path, ∃ text, source.FormulaAt passed text) →
    path.length = source.options.maxDepth →
    Right address (.error (.reference (.chainTooLong address source.options.maxDepth)))
  missing : ∀ {address : Address}, source.grid.get? address = none →
    Right address (.error (.reference (.missingCell address)))
  literal : ∀ {address : Address} {text : String}, source.grid.get? address = some text →
    isFormula text = false → Right address (.ok (Value.ofLiteral text))
  formula : ∀ {address : Address} {text : String}, source.FormulaAt address text →
    ∀ draws, (source.drawnInquiry draws address text).Follows Needs Right address

namespace Judgement

variable {source : Source} {judgement : Judgement source}

/-- The cells on the path to a cell are formula cells, each there once, that need the cell. Together
with the room that is left they are as many as the limit on chains says. -/
structure LeadsTo (judgement : Judgement source) (room : Nat) (path : List Address)
    (address : Address) : Prop where
  once : path.Nodup
  formulas : ∀ passed ∈ path, ∃ text, source.FormulaAt passed text
  needed : ∀ passed ∈ path, Relation.TransGen judgement.Needs passed address
  measured : path.length + room = source.options.maxDepth

theorem leadsTo_start (judgement : Judgement source) (address : Address) :
    judgement.LeadsTo source.options.maxDepth [] address where
  once := List.nodup_nil
  formulas := by
    intro passed member
    cases member
  needed := by
    intro passed member
    cases member
  measured := Nat.zero_add _

theorem LeadsTo.step {room : Nat} {path : List Address} {address asked : Address} {text : String}
    (leads : judgement.LeadsTo (room + 1) path address) (offPath : address ∉ path)
    (present : source.FormulaAt address text) (needs : judgement.Needs address asked) :
    judgement.LeadsTo room (address :: path) asked where
  once := List.nodup_cons.2 ⟨offPath, leads.once⟩
  formulas := by
    intro passed member
    rcases List.mem_cons.1 member with same | earlier
    · rw [same]
      exact ⟨text, present⟩
    · exact leads.formulas passed earlier
  needed := by
    intro passed member
    rcases List.mem_cons.1 member with same | earlier
    · rw [same]
      exact .single needs
    · exact (leads.needed passed earlier).tail needs
  measured := by
    have measured := leads.measured
    rw [List.length_cons]
    omega

/-- Whatever is remembered is right, and the cells that are being computed are on the path. -/
structure Fits (judgement : Judgement source) (path : List Address) (walk : Walk) : Prop where
  settled : ∀ {address : Address} {outcome : Outcome Value},
    walk.progress[address]? = some (.settled outcome) → judgement.Right address outcome
  pending : ∀ {address : Address}, walk.progress[address]? = some .pending → address ∈ path

theorem fits_start (judgement : Judgement source) : judgement.Fits [] Walk.start := by
  constructor
  · intro address outcome known
    rw [Walk.progress_start] at known
    cases known
  · intro address known
    rw [Walk.progress_start] at known
    cases known

theorem Fits.of_progress_eq {path : List Address} {walk after : Walk}
    (fits : judgement.Fits path walk) (same : after.progress = walk.progress) :
    judgement.Fits path after := by
  constructor
  · intro address outcome known
    rw [same] at known
    exact fits.settled known
  · intro address known
    rw [same] at known
    exact fits.pending known

theorem Fits.enter {path : List Address} {walk : Walk} (fits : judgement.Fits path walk)
    (entered : Address) : judgement.Fits (entered :: path) (walk.enter entered) := by
  constructor
  · intro address outcome known
    rw [Walk.progress_enter] at known
    split at known
    · cases known
    · exact fits.settled known
  · intro address known
    rw [Walk.progress_enter] at known
    split at known
    · rename_i same
      rw [same]
      exact List.mem_cons_self
    · exact List.mem_cons_of_mem _ (fits.pending known)

theorem Fits.leave {path : List Address} {walk : Walk} {left : Address}
    {outcome : Outcome Value} (fits : judgement.Fits (left :: path) walk)
    (right : judgement.Right left outcome) : judgement.Fits path (walk.leave left outcome) := by
  constructor
  · intro address remembered known
    rw [Walk.progress_leave] at known
    split at known
    · rename_i same
      split at known
      · cases known
      · cases known
        rw [← same]
        exact right
    · exact fits.settled known
  · intro address known
    rw [Walk.progress_leave] at known
    split at known
    · split at known <;> cases known
    · rename_i other
      rcases List.mem_cons.1 (fits.pending known) with same | onPath
      · exact absurd same.symm other
      · exact onPath

def Finds (judgement : Judgement source) (path : List Address) (address : Address)
    (found : Outcome Value × Walk) : Prop :=
  judgement.Right address found.1 ∧ judgement.Fits path found.2

theorem finds_walk {path : List Address} {address : Address} {visit : Address → Walking Value}
    (visits : ∀ asked walk, judgement.Needs address asked → judgement.Fits path walk →
      judgement.Finds path asked ((visit asked).run walk))
    {inquiry : Inquiry Value} {walk : Walk} (fits : judgement.Fits path walk)
    (follows : inquiry.Follows judgement.Needs judgement.Right address) :
    judgement.Finds path address ((inquiry.walk visit).run walk) := by
  induction follows generalizing walk with
  | done right => exact ⟨right, fits⟩
  | @ask asked next needs fails continues ih =>
      have found := visits asked walk needs fits
      rw [Inquiry.walk, Walking.run_bind]
      rcases answered : (visit asked).run walk with ⟨outcome, after⟩
      rw [answered] at found
      cases outcome with
      | error error => exact ⟨fails error found.1, found.2⟩
      | ok value => exact ih value found.1 found.2

theorem finds_compute {path : List Address} {address : Address}
    {visit : Address → Walking Value}
    (visits : ∀ asked walk, judgement.Needs address asked → judgement.Fits path walk →
      judgement.Finds path asked ((visit asked).run walk))
    {text : String} {walk : Walk} (fits : judgement.Fits path walk)
    (present : source.FormulaAt address text) :
    judgement.Finds path address ((source.compute visit address text).run walk) := by
  obtain ⟨draws, same⟩ := source.exists_run_compute visit address text walk
  rw [same]
  exact finds_walk visits fits (judgement.formula present draws)

/-- A visit over any path finds a right result. The induction is on the room that is left. -/
theorem finds_visit {room : Nat} {path : List Address} {address : Address} {walk : Walk}
    (leads : judgement.LeadsTo room path address) (fits : judgement.Fits path walk) :
    judgement.Finds path address ((source.visit room path address).run walk) := by
  induction room using Nat.strongRecOn generalizing path address walk with
  | ind room ih =>
      have visited := source.visited room path address walk
      generalize (source.visit room path address).run walk = found at visited ⊢
      cases visited with
      | settled known => exact ⟨fits.settled known, fits⟩
      | pending known =>
          exact ⟨judgement.circular (leads.needed address (fits.pending known)), fits⟩
      | circular unknown onPath =>
          exact ⟨judgement.circular (leads.needed address onPath), fits⟩
      | tooLong unknown offPath =>
          exact ⟨judgement.chainTooLong address leads.once leads.formulas leads.measured,
            fits.of_progress_eq rfl⟩
      | missing unknown offPath absent => exact ⟨judgement.missing absent, fits⟩
      | literal unknown offPath present plain => exact ⟨judgement.literal present plain, fits⟩
      | @formula roomBelow text outcome after unknown offPath present computed =>
          have found := finds_compute
            (fun asked walk needs kept =>
              ih roomBelow (Nat.lt_succ_self _) (leads.step offPath present needs) kept)
            (fits.enter address) present
          rw [computed] at found
          exact ⟨found.1, found.2.leave found.1⟩

theorem finds_visitRoot {walk : Walk} (fits : judgement.Fits [] walk) (address : Address) :
    judgement.Finds [] address (source.visitRoot address walk) := by
  have cleared : judgement.Fits [] { walk with depthLimited := false } := fits.of_progress_eq rfl
  have found := finds_visit (judgement.leadsTo_start address) cleared
  exact ⟨found.1, found.2.of_progress_eq rfl⟩

end Judgement

end Spreadsheet.Sheet

import Spreadsheet.Proofs.Sheet.Calm
import Spreadsheet.Proofs.Sheet.Comparison
import Spreadsheet.Proofs.Sheet.Consistency
import Spreadsheet.Proofs.Sheet.SideBySide

/-!
Larger limits. Under larger limits the same walks go further: they fail at other cells and remember
other failures. But each value that is found and remembered under the smaller limits is found under
the larger ones as well, when two evaluations run side by side.

Where the second walk has remembered a cell already, it does not visit what the first one visits
now. So the comparison needs to know that whatever is remembered is justified by other cells that
are remembered: then the first walk can find no value that the second one does not have.

The main statement is that a cell with a value has the same value under any larger limits.
-/

set_option autoImplicit false

namespace Spreadsheet.Sheet

def Walk.Below (walk memory : Walk) : Prop :=
  ∀ ⦃address : Address⦄ ⦃value : Value⦄,
    walk.progress[address]? = some (.settled (.ok value)) →
      memory.progress[address]? = some (.settled (.ok value))

theorem Walk.Below.enter {walk memory : Walk} (below : walk.Below memory) (entered : Address) :
    (walk.enter entered).Below memory := by
  intro address value known
  rw [Walk.progress_enter] at known
  split at known
  · cases known
  · exact below known

theorem Walk.Below.leave {walk memory : Walk} {left : Address} {outcome : Outcome Value}
    (below : walk.Below memory)
    (found : ∀ value, outcome = .ok value →
      memory.progress[left]? = some (.settled (.ok value))) :
    (walk.leave left outcome).Below memory := by
  intro address value known
  rw [Walk.progress_leave] at known
  split at known
  · rename_i same
    split at known
    · cases known
    · cases known
      exact same ▸ found value rfl
  · exact below known

theorem Walk.Below.enterBoth {walk memory : Walk} (below : walk.Below memory) (entered : Address) :
    (walk.enter entered).Below (memory.enter entered) := by
  intro address value known
  rw [Walk.progress_enter] at known ⊢
  split at known
  · cases known
  · rename_i other
    rw [if_neg other]
    exact below known

theorem Walk.Below.leaveBoth {walk memory : Walk} {left : Address}
    {outcome further : Outcome Value} (below : walk.Below memory)
    (found : ∀ value, outcome = .ok value → further = .ok value) :
    (walk.leave left outcome).Below (memory.leave left further) := by
  intro address value known
  rw [Walk.progress_leave] at known ⊢
  split at known
  · rename_i same
    split at known
    · cases known
    · cases known
      rw [if_pos same, found value rfl, if_neg]
      simp [Except.toBool]
  · rename_i other
    rw [if_neg other]
    exact below known

theorem Inquiry.Concludes.knows_first {Known : Address → Outcome Value → Prop} {asked : Address}
    {next : Value → Inquiry Value} {outcome : Outcome Value}
    (concludes : (Inquiry.ask asked next).Concludes Known outcome) :
    ∃ result, Known asked result := by
  cases concludes with
  | failed known => exact ⟨_, known⟩
  | answered known _ => exact ⟨_, known⟩

namespace Source

variable {source : Source} {wider : Options}

theorem Grows.below {walk memory after : Walk} (grows : source.Grows memory after)
    (below : walk.Below memory) : walk.Below after :=
  fun _ _ known => grows.keeps (below known)

def withOptions (source : Source) (options : Options) : Source :=
  { source with options }

theorem sameSurroundings_withOptions (source : Source) (options : Options) :
    SameSurroundings source (source.withOptions options) where
  tableId := rfl
  rowCount := rfl
  columnCount := rfl

theorem Plain.unique {address : Address} {outcome other : Outcome Value}
    (plain : source.Plain address outcome) (again : source.Plain address other) :
    outcome = other := by
  cases plain with
  | missing absent =>
      cases again with
      | missing _ => rfl
      | literal there _ => cases there.symm.trans absent
  | literal present _ =>
      cases again with
      | missing absent => cases present.symm.trans absent
      | literal there _ =>
          cases present.symm.trans there
          rfl

theorem outlasts_drawnInquiry (calm : source.callsRandom = false)
    (limit : source.options.maxRangeCells ≤ wider.maxRangeCells) {address : Address} {text : String}
    (present : source.FormulaAt address text) (draws drawsMore : Draws) :
    (source.drawnInquiry draws address text).Outlasts
      ((source.withOptions wider).drawnInquiry drawsMore address text) := by
  have calmMore : (source.withOptions wider).callsRandom = false := calm
  rw [drawnInquiry_eq calm present, drawnInquiry_eq calmMore present]
  exact (source.sameSurroundings_withOptions wider).outlasts_inquiry limit address text

theorem FormulaAt.not_says {address : Address} {formula : String} {outcome : Outcome Value}
    (present : source.FormulaAt address formula) (plain : source.Plain address outcome) :
    False := by
  cases plain with
  | missing absent => cases present.1.symm.trans absent
  | literal there literal => exact present.not_plain there literal

theorem Justified.unique {memory : Walk} (justified : source.Justified memory)
    {address : Address} {outcome other : Outcome Value}
    (known : source.Knows memory address outcome) (again : source.Knows memory address other) :
    outcome = other := by
  rcases known with remembered | plain
  · rcases again with same | plain
    · cases remembered.symm.trans same
      rfl
    · obtain ⟨text, _, present, -⟩ := justified remembered
      exact (present.not_says plain).elim
  · rcases again with remembered | same
    · obtain ⟨text, _, present, -⟩ := justified remembered
      exact (present.not_says plain).elim
    · exact plain.unique same

mutual

/-- A visit of a cell that a justified memory under larger limits knows finds no value that the
memory does not have, neither for the cell nor on the way. -/
theorem Visits.within {room : Nat} {path : List Address} {address : Address}
    {walk after memory : Walk} {outcome : Outcome Value} (calm : source.callsRandom = false)
    (limit : source.options.maxRangeCells ≤ wider.maxRangeCells)
    (justified : (source.withOptions wider).Justified memory) (below : walk.Below memory)
    (there : ∃ result, (source.withOptions wider).Knows memory address result) :
    source.Visits room path address walk outcome after →
      (∀ value, outcome = .ok value → (source.withOptions wider).Knows memory address (.ok value)) ∧
        after.Below memory
  | .settled known => ⟨fun value same => .inl (below (same ▸ known)), below⟩
  | .pending _ => ⟨nofun, below⟩
  | .circular _ _ => ⟨nofun, below⟩
  | .tooLong _ _ => ⟨nofun, below⟩
  | .missing _ _ _ => ⟨nofun, below⟩
  | .literal _ _ present plain => ⟨fun value same => .inr (same ▸ .literal present plain), below⟩
  | .formula unknown offPath present answers => by
      obtain ⟨result, remembered | plain⟩ := there
      · obtain ⟨text, _, again, concludes⟩ := justified remembered
        cases present.1.symm.trans again.1
        obtain ⟨found, kept⟩ := Answers.within calm limit justified (below.enter address)
          (outlasts_drawnInquiry calm limit present _ _) concludes answers
        have value (value : Value) (same : outcome = .ok value) :
            memory.progress[address]? = some (.settled (.ok value)) := found value same ▸ remembered
        exact ⟨fun one same => .inl (value one same), kept.leave value⟩
      · have presentWider : (source.withOptions wider).FormulaAt address _ := present
        exact (presentWider.not_says plain).elim

theorem Answers.within {room : Nat} {path : List Address} {inquiry further : Inquiry Value}
    {walk after memory : Walk} {outcome result : Outcome Value} (calm : source.callsRandom = false)
    (limit : source.options.maxRangeCells ≤ wider.maxRangeCells)
    (justified : (source.withOptions wider).Justified memory) (below : walk.Below memory)
    (outlasts : inquiry.Outlasts further)
    (concludes : further.Concludes ((source.withOptions wider).Knows memory) result) :
    source.Answers room path inquiry walk outcome after →
      (∀ value, outcome = .ok value → result = .ok value) ∧ after.Below memory
  | .done outcome => by
      refine ⟨?_, below⟩
      rintro value rfl
      cases outlasts with
      | done value =>
          cases concludes
          rfl
  | .failed visits => by
      cases outlasts with
      | ask following =>
          exact ⟨nofun, (Visits.within calm limit justified below concludes.knows_first visits).2⟩
  | .answered visits answers => by
      cases outlasts with
      | ask following =>
          obtain ⟨found, between⟩ :=
            Visits.within calm limit justified below concludes.knows_first visits
          cases concludes with
          | failed known => cases justified.unique known (found _ rfl)
          | answered known rest =>
              cases justified.unique known (found _ rfl)
              exact Answers.within calm limit justified between (following _) rest answers

end

theorem Visits.eq_of_settled {room : Nat} {path : List Address} {address : Address}
    {walk after : Walk} {outcome remembered : Outcome Value}
    (visits : source.Visits room path address walk outcome after)
    (known : walk.progress[address]? = some (.settled remembered)) : outcome = remembered := by
  cases visits with
  | settled found =>
      cases found.symm.trans known
      rfl
  | pending found => cases found.symm.trans known
  | circular unknown _ => cases unknown.symm.trans known
  | tooLong unknown _ => cases unknown.symm.trans known
  | missing unknown _ _ => cases unknown.symm.trans known
  | literal unknown _ _ _ => cases unknown.symm.trans known
  | formula unknown _ _ _ => cases unknown.symm.trans known

theorem Justified.enter {memory : Walk} (justified : source.Justified memory)
    {entered : Address} (unknown : memory.progress[entered]? = none) :
    source.Justified (memory.enter entered) := by
  refine (Solves.enter justified entered).mono fun address outcome known => ?_
  refine known.imp_left fun remembered => ?_
  rw [Walk.progress_enter, if_neg]
  · exact remembered
  · rintro rfl
    cases unknown.symm.trans remembered

mutual

/-- A visit with more room under larger limits, and with a memory that has all values of the other
memory, finds each value that the other visit finds. -/
theorem Visits.ahead {room more : Nat} {path : List Address} {address : Address}
    {walk after memory later : Walk} {outcome further : Outcome Value}
    (calm : source.callsRandom = false)
    (limit : source.options.maxRangeCells ≤ wider.maxRangeCells) (rooms : room ≤ more)
    (ready : memory.Ready path) (justified : (source.withOptions wider).Justified memory)
    (below : walk.Below memory)
    (visitsMore : (source.withOptions wider).Visits more path address memory further later) :
    source.Visits room path address walk outcome after →
      (∀ value, outcome = .ok value → further = .ok value) ∧ after.Below later
  | .settled known => by
      refine ⟨?_, visitsMore.grows.below below⟩
      rintro value rfl
      exact visitsMore.eq_of_settled (below known)
  | .pending _ => ⟨nofun, visitsMore.grows.below below⟩
  | .circular _ _ => ⟨nofun, visitsMore.grows.below below⟩
  | .tooLong _ _ => ⟨nofun, visitsMore.grows.below below⟩
  | .missing _ _ _ => ⟨nofun, visitsMore.grows.below below⟩
  | .literal _ offPath present plain => by
      refine ⟨?_, visitsMore.grows.below below⟩
      rintro value ⟨⟩
      cases visitsMore with
      | settled known => exact justified.unique (.inl known) (.inr (.literal present plain))
      | pending known => exact absurd (ready.pending known) offPath
      | circular _ onPath => exact absurd onPath offPath
      | tooLong _ _ => cases rooms
      | missing _ _ absent => cases present.symm.trans absent
      | literal _ _ there _ =>
          cases present.symm.trans there
          rfl
      | formula _ _ there _ => exact (there.not_plain present plain).elim
  | .formula unknown offPath present answers => by
      cases visitsMore with
      | settled known =>
          obtain ⟨found, kept⟩ := (Visits.formula unknown offPath present answers).within calm limit
            justified below ⟨_, .inl known⟩
          exact ⟨fun value same => justified.unique (.inl known) (found value same), kept⟩
      | pending known => exact absurd (ready.pending known) offPath
      | circular _ onPath => exact absurd onPath offPath
      | tooLong _ _ => cases rooms
      | missing _ _ absent => cases present.1.symm.trans absent
      | literal _ _ there plain => exact (present.not_plain there plain).elim
      | formula unknownMore _ there answersMore =>
          cases present.1.symm.trans there.1
          obtain ⟨found, kept⟩ := Answers.ahead calm limit (Nat.le_of_succ_le_succ rooms)
            (ready.enter address) (justified.enter unknownMore) (below.enterBoth address)
            (outlasts_drawnInquiry calm limit present _ _) answersMore answers
          exact ⟨found, kept.leaveBoth found⟩

theorem Answers.ahead {room more : Nat} {path : List Address} {inquiry longer : Inquiry Value}
    {walk after memory later : Walk} {outcome further : Outcome Value}
    (calm : source.callsRandom = false)
    (limit : source.options.maxRangeCells ≤ wider.maxRangeCells) (rooms : room ≤ more)
    (ready : memory.Ready path) (justified : (source.withOptions wider).Justified memory)
    (below : walk.Below memory) (outlasts : inquiry.Outlasts longer)
    (answersMore : (source.withOptions wider).Answers more path longer memory further later) :
    source.Answers room path inquiry walk outcome after →
      (∀ value, outcome = .ok value → further = .ok value) ∧ after.Below later
  | .done outcome => by
      refine ⟨?_, answersMore.grows.below below⟩
      rintro value rfl
      cases outlasts with
      | done value =>
          cases answersMore
          rfl
  | .failed visits => by
      refine ⟨nofun, ?_⟩
      cases outlasts with
      | ask following =>
          cases answersMore with
          | failed visitsMore =>
              exact (Visits.ahead calm limit rooms ready justified below visitsMore visits).2
          | answered visitsMore answersMore =>
              have between :=
                (Visits.ahead calm limit rooms ready justified below visitsMore visits).2
              exact answersMore.grows.below between
  | .answered visits answers => by
      cases outlasts with
      | ask following =>
          cases answersMore with
          | failed visitsMore =>
              cases (Visits.ahead calm limit rooms ready justified below visitsMore visits).1 _ rfl
          | answered visitsMore answersMore =>
              obtain ⟨found, between⟩ :=
                Visits.ahead calm limit rooms ready justified below visitsMore visits
              cases found _ rfl
              have readyNext := visitsMore.ready ready (not_tooLong_ok _)
              have justifiedNext := visitsMore.justified ready justified nofun
              exact Answers.ahead calm limit rooms readyNext justifiedNext between (following _)
                answersMore answers

end

/-- Two memories between two visits, the second one under larger limits. -/
structure Follows (source : Source) (wider : Options) (walk memory : Walk) : Prop where
  below : walk.Below memory
  ready : memory.Ready []
  justified : (source.withOptions wider).Justified memory

theorem follows_visitRoot (calm : source.callsRandom = false)
    (depth : source.options.maxDepth ≤ wider.maxDepth)
    (limit : source.options.maxRangeCells ≤ wider.maxRangeCells) (address : Address)
    {walk memory : Walk} (follows : source.Follows wider walk memory) :
    InStep (source.Follows wider)
      (fun outcome further => ∀ value : Value, outcome = .ok value → further = .ok value)
      (source.visitRoot address walk) ((source.withOptions wider).visitRoot address memory) := by
  obtain ⟨after, visits, same⟩ := source.visits_visitRoot address walk
  obtain ⟨later, visitsMore, sameMore⟩ := (source.withOptions wider).visits_visitRoot address memory
  have ready : Walk.Ready [] { memory with depthLimited := false } :=
    ⟨⟨rfl, follows.ready.sound⟩, follows.ready.pending⟩
  have below : Walk.Below { walk with depthLimited := false }
      { memory with depthLimited := false } := follows.below
  obtain ⟨found, kept⟩ :=
    Visits.ahead calm limit depth ready follows.justified below visitsMore visits
  refine ⟨found, ?_⟩
  rw [same, sameMore]
  exact {
    below := kept
    ready := ⟨⟨rfl, (visitsMore.flag_iff ready.toClear).2⟩,
      fun known => ready.pending (visitsMore.grows.pending known)⟩
    justified := visitsMore.justified ready follows.justified fun _ _ => rfl }

def KeepsValue (result further : CellResult) : Prop :=
  ∀ value, result = .computed (.ok value) → further = .computed (.ok value)

theorem follows_evaluateCell (calm : source.callsRandom = false)
    (depth : source.options.maxDepth ≤ wider.maxDepth)
    (limit : source.options.maxRangeCells ≤ wider.maxRangeCells) (cell : Address × String)
    {walk memory : Walk} (follows : source.Follows wider walk memory) :
    InStep (source.Follows wider) KeepsValue ((source.evaluateCell cell).run walk)
      (((source.withOptions wider).evaluateCell cell).run memory) := by
  rw [evaluateCell, evaluateCell]
  cases formula : isFormula cell.2 with
  | false =>
      refine ⟨?_, follows⟩
      intro value same
      cases same
  | true =>
      obtain ⟨found, kept⟩ := follows_visitRoot calm depth limit cell.1 follows
      refine ⟨fun value same => ?_, kept⟩
      have valued := found value (CellResult.computed.inj same)
      exact congrArg CellResult.computed valued

/-- Larger limits keep every value. A formula cell that has a value under some limits has the same
value when longer chains and larger blocks are allowed, as long as no formula calls a random
function. -/
theorem outcome_of_larger_limits (source : Source) (wider : Options)
    (calm : source.callsRandom = false)
    (depth : source.options.maxDepth ≤ wider.maxDepth)
    (blocks : source.options.maxRangeCells ≤ wider.maxRangeCells) (address : Address)
    (value : Value) (evaluated : source.outcome? address = some (.ok value)) :
    (source.withOptions wider).outcome? address = some (.ok value) := by
  have start : source.Follows wider Walk.start Walk.start :=
    ⟨fun _ _ known => known, Walk.ready_start, (source.withOptions wider).justified_start⟩
  have each (cell twin : Address × String) (same : cell = twin) (walk memory : Walk)
      (follows : source.Follows wider walk memory) :
      InStep (source.Follows wider) KeepsValue ((source.evaluateCell cell).run walk)
        (((source.withOptions wider).evaluateCell twin).run memory) :=
    same ▸ follows_evaluateCell calm depth blocks cell follows
  have cells : Grid.Related Eq source.grid.addressed (source.withOptions wider).grid.addressed :=
    Grid.related_self (fun _ => rfl) _
  have there := (related_results start each cells).get? address
  rw [outcome?_eq_some_iff] at evaluated ⊢
  rw [evaluated] at there
  generalize (source.withOptions wider).results.1.get? address = found at there ⊢
  cases there with
  | some keeps => exact congrArg some (keeps value rfl)

/-- A chain that is too long from its start on and a block that is too large, each with a part that
has a value. -/
def narrowSheet : Source where
  grid := { rows := [["=B1+D1", "=C1", "=D1", "=2*3"], ["=C1", "=SUM(A1:D1)", "=D1&C1"]] }
  tableId := "narrow"
  options := { maxDepth := 2, maxRangeCells := 3 }
  draws _ _ := .lowest

theorem outcome_of_larger_limits_narrowSheet :
    narrowSheet.callsRandom = false ∧ narrowSheet.options.maxDepth ≤ 9 ∧
      narrowSheet.options.maxRangeCells ≤ 4 ∧
      narrowSheet.outcome? ⟨1, 2⟩ = some (.ok (.text "66")) ∧
      (narrowSheet.withOptions { maxDepth := 9, maxRangeCells := 4 }).outcome? ⟨1, 2⟩ =
        some (.ok (.text "66")) := by
  have found : narrowSheet.outcome? ⟨1, 2⟩ = some (.ok (.text "66")) := by decide +kernel
  have calm : narrowSheet.callsRandom = false := by decide +kernel
  exact ⟨calm, by decide, by decide, found,
    outcome_of_larger_limits narrowSheet { maxDepth := 9, maxRangeCells := 4 } calm (by decide)
      (by decide) ⟨1, 2⟩ (.text "66") found⟩

end Source

end Spreadsheet.Sheet

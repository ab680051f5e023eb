import Spreadsheet.Proofs.Sheet.Consistency

/-!
How often formulas are computed. A cell that is left with a result is remembered and never computed
again, so one computation more goes with one remembered cell more, except where a chain is too long:
then the cells on the way back are left without a result, as many of them as there was room for, and
such a cell is computed again when it is visited another time.

The main statement bounds the number of computations from both sides. There are no more computations
than formulas when no chain is too long, and not otherwise as soon as two cells may refer to each
other in a row.
-/

set_option autoImplicit false

namespace Spreadsheet.Sheet

def isTooLong : Outcome Value → Bool
  | .error (.reference (.chainTooLong _ _)) => true
  | _ => false

theorem isTooLong_iff (outcome : Outcome Value) : isTooLong outcome = true ↔ TooLong outcome := by
  unfold isTooLong
  split
  · exact iff_of_true rfl ⟨_, _, rfl⟩
  · rename_i other
    refine iff_of_false Bool.false_ne_true ?_
    rintro ⟨named, limit, rfl⟩
    exact other named limit rfl

/-- How many formula cells have as their result that a chain is too long. -/
def chainsTooLong (results : Grid CellResult) : Nat :=
  (results.rows.flatten.filterMap CellResult.outcome?).countP isTooLong

namespace Walk

theorem size_enter {walk : Walk} {entered : Address}
    (unknown : walk.progress[entered]? = none) :
    (walk.enter entered).progress.size = walk.progress.size + 1 := by
  rw [enter, Std.TreeMap.size_insert, Std.TreeMap.contains_eq_isSome_getElem?, unknown]
  rfl

theorem size_leave {walk : Walk} {left : Address} {outcome : Outcome Value}
    (entered : walk.progress[left]? = some .pending)
    (flag : walk.depthLimited = true ↔ TooLong outcome) :
    (walk.leave left outcome).progress.size + (if isTooLong outcome then 1 else 0) =
      walk.progress.size := by
  have there : walk.progress.contains left = true := by
    rw [Std.TreeMap.contains_eq_isSome_getElem?, entered]
    rfl
  rw [leave]
  by_cases long : TooLong outcome
  · have nonempty := Std.TreeMap.isEmpty_eq_false_of_contains there
    rw [Std.TreeMap.isEmpty_eq_size_eq_zero, beq_eq_false_iff_ne] at nonempty
    rw [(isTooLong_iff outcome).2 long, flag.2 long]
    obtain ⟨named, limit, rfl⟩ := long
    have erased : (walk.progress.erase left).size = walk.progress.size - 1 := by
      rw [Std.TreeMap.size_erase, if_pos there]
    show (walk.progress.erase left).size + 1 = walk.progress.size
    omega
  · rw [Bool.eq_false_iff.2 (mt (isTooLong_iff outcome).1 long),
      Bool.eq_false_iff.2 (mt flag.1 long)]
    exact (Std.TreeMap.size_insert).trans (if_pos there)

/-- How many cells are left without a result by a visit that has room for some more cells. -/
def forgotten (room : Nat) (outcome : Outcome Value) : Nat :=
  if isTooLong outcome then room else 0

theorem forgotten_of_short (room : Nat) {outcome : Outcome Value} (short : ¬ TooLong outcome) :
    forgotten room outcome = 0 :=
  if_neg (mt (isTooLong_iff outcome).1 short)

theorem forgotten_succ (room : Nat) (outcome : Outcome Value) :
    forgotten (room + 1) outcome = forgotten room outcome + if isTooLong outcome then 1 else 0 := by
  unfold forgotten
  split <;> rfl

theorem mul_countP_cons (room : Nat) (outcome : Outcome Value) (rest : List (Outcome Value)) :
    room * (outcome :: rest).countP isTooLong =
      forgotten room outcome + room * rest.countP isTooLong := by
  rw [List.countP_cons, Nat.mul_add, Nat.add_comm, forgotten]
  split
  · rw [Nat.mul_one]
  · rw [Nat.mul_zero]

/-- There is one computation more for each cell that is remembered in addition, and for each that
was left without a result. -/
def Balanced (walk after : Walk) (lost : Nat) : Prop :=
  after.computed + walk.progress.size = walk.computed + after.progress.size + lost

theorem balanced_self (walk : Walk) (room : Nat) {outcome : Outcome Value}
    (short : ¬ TooLong outcome) : walk.Balanced walk (forgotten room outcome) := by
  rw [forgotten_of_short room short]
  rfl

theorem Balanced.trans {walk between after : Walk} {lost more : Nat}
    (first : walk.Balanced between lost) (second : between.Balanced after more) :
    walk.Balanced after (lost + more) := by
  unfold Balanced at first second ⊢
  omega

theorem Balanced.leave {room : Nat} {walk after : Walk} {address : Address}
    {outcome : Outcome Value} (unknown : walk.progress[address]? = none)
    (inside : (walk.enter address).Balanced after (forgotten room outcome))
    (entered : after.progress[address]? = some .pending)
    (flag : after.depthLimited = true ↔ TooLong outcome) :
    walk.Balanced (after.leave address outcome) (forgotten (room + 1) outcome) := by
  have computedEnter : (walk.enter address).computed = walk.computed := rfl
  have computedLeave : (after.leave address outcome).computed = after.computed + 1 := rfl
  have sizeEnter := size_enter unknown
  have sizeLeave := size_leave entered flag
  unfold Balanced at inside ⊢
  rw [forgotten_succ]
  omega

end Walk

namespace Source

variable {source : Source}

mutual

theorem Visits.balanced {room : Nat} {path : List Address} {address : Address} {walk after : Walk}
    {outcome : Outcome Value} (clear : walk.Clear) :
    source.Visits room path address walk outcome after →
      walk.Balanced after (Walk.forgotten room outcome)
  | .settled known => walk.balanced_self room (clear.sound known)
  | .pending _ => walk.balanced_self room (not_tooLong_error nofun)
  | .circular _ _ => walk.balanced_self room (not_tooLong_error nofun)
  | .tooLong _ _ => rfl
  | .missing _ _ _ => walk.balanced_self _ (not_tooLong_error nofun)
  | .literal _ _ _ _ => walk.balanced_self _ (not_tooLong_ok _)
  | .formula unknown _ present answers => by
      have inside := Answers.balanced (clear.enter address) (yields_notTooLong present) answers
      have flag := (answers.flag_iff (clear.enter address) (yields_notTooLong present)).1
      have entered := answers.grows.keeps (walk.progress_enter_self address)
      exact inside.leave unknown entered flag

theorem Answers.balanced {room : Nat} {path : List Address} {inquiry : Inquiry Value}
    {walk after : Walk} {outcome : Outcome Value} {Allowed : Address → Prop} (clear : walk.Clear)
    (yields : inquiry.Yields Allowed (fun _ _ => True) (fun outcome => ¬ TooLong outcome)) :
    source.Answers room path inquiry walk outcome after →
      walk.Balanced after (Walk.forgotten room outcome)
  | .done outcome => by
      cases yields with
      | done short => exact walk.balanced_self room short
  | .failed visits => Visits.balanced clear visits
  | .answered visits answers => by
      obtain ⟨flag, kept⟩ := Visits.flag_iff clear visits
      have still : Walk.Clear _ := ⟨Bool.eq_false_iff.2 (mt flag.1 (not_tooLong_ok _)), kept⟩
      cases yields with
      | ask allowed following =>
          have first := Visits.balanced clear visits
          have rest := Answers.balanced still (following _ trivial) answers
          rw [Walk.forgotten_of_short room (not_tooLong_ok _)] at first
          have both := first.trans rest
          rwa [Nat.zero_add] at both

end

theorem balanced_visitRoot (source : Source) (address : Address) {walk : Walk}
    (sound : walk.Sound) :
    walk.Balanced (source.visitRoot address walk).2
        (Walk.forgotten source.options.maxDepth (source.visitRoot address walk).1) ∧
      (source.visitRoot address walk).2.Sound := by
  obtain ⟨after, visits, same⟩ := source.visits_visitRoot address walk
  have clear : Walk.Clear { walk with depthLimited := false } := ⟨rfl, sound⟩
  have balanced : Walk.Balanced { walk with depthLimited := false } after _ :=
    visits.balanced clear
  rw [same]
  exact ⟨balanced, (visits.flag_iff clear).2⟩

theorem balanced_visitRoots (source : Source) (calls : List Address) {walk : Walk}
    (sound : walk.Sound) :
    walk.Balanced ((source.visitRoots calls).run walk).2
      (source.options.maxDepth * ((source.visitRoots calls).run walk).1.countP isTooLong) := by
  induction calls generalizing walk with
  | nil => rfl
  | cons address rest ih =>
      obtain ⟨first, soundNext⟩ := source.balanced_visitRoot address sound
      rw [run_visitRoots_cons, Walk.mul_countP_cons]
      exact first.trans (ih soundNext)

theorem formulaAt_of_mem_formulaCells {address : Address} (member : address ∈ source.formulaCells) :
    ∃ text, source.FormulaAt address text := by
  obtain ⟨cell, listed, rfl⟩ := List.mem_map.1 member
  obtain ⟨inside, formula⟩ := List.mem_filter.1 listed
  exact ⟨cell.2, Grid.get?_of_mem_addressed inside, formula⟩

theorem nodup_formulaCells (source : Source) : source.formulaCells.Nodup :=
  source.grid.nodup_addresses.sublist (List.filter_sublist.map Prod.fst)

theorem size_le_formulaCells {walk : Walk} (grows : source.Grows Walk.start walk) :
    walk.progress.size ≤ source.formulaCells.length := by
  rw [← Std.TreeMap.length_keys]
  refine length_le_formulaCells Std.TreeMap.nodup_keys fun cell member => ?_
  rw [Std.TreeMap.mem_keys, Std.TreeMap.mem_iff_isSome_getElem?] at member
  obtain ⟨progress, known⟩ := Option.isSome_iff_exists.1 member
  exact (grows.settled_of_start known).1

theorem length_le_size {walk : Walk} {cells : List Address} (once : cells.Nodup)
    (remembered : ∀ cell ∈ cells, ∃ progress, walk.progress[cell]? = some progress) :
    cells.length ≤ walk.progress.size := by
  rw [← Std.TreeMap.length_keys]
  refine (List.subperm_of_subset once fun cell member => ?_).length_le
  obtain ⟨progress, known⟩ := remembered cell member
  rw [Std.TreeMap.mem_keys, Std.TreeMap.mem_iff_isSome_getElem?, known]
  rfl

theorem exists_remembered {walk : Walk} {calls : List Address} {outcomes : List (Outcome Value)}
    (formulas : ∀ address ∈ calls, ∃ text, source.FormulaAt address text)
    (right : List.Forall₂ (source.consistency.Right walk) calls outcomes) :
    ∃ kept : List Address, kept.Sublist calls ∧
      (∀ cell ∈ kept, ∃ progress, walk.progress[cell]? = some progress) ∧
      kept.length + outcomes.countP isTooLong = calls.length := by
  induction right with
  | nil => exact ⟨[], .slnil, List.forall_mem_nil _, rfl⟩
  | @cons address outcome calls outcomes one rest ih =>
      obtain ⟨⟨text, present⟩, others⟩ := List.forall_mem_cons.1 formulas
      obtain ⟨kept, sublist, remembered, length⟩ := ih others
      rw [List.countP_cons, List.length_cons]
      by_cases long : TooLong outcome
      · refine ⟨kept, sublist.cons address, remembered, ?_⟩
        rw [if_pos ((isTooLong_iff outcome).2 long), ← Nat.add_assoc, length]
      · refine ⟨address :: kept, sublist.cons_cons address, ?_, ?_⟩
        · exact List.forall_mem_cons.2 ⟨⟨_, one long text present⟩, remembered⟩
        · rw [if_neg (mt (isTooLong_iff outcome).1 long), Nat.add_zero, List.length_cons,
            Nat.add_right_comm, length]

/-- As many cells are remembered as have a result, those perhaps excepted whose result is that a
chain is too long. -/
theorem formulaCells_le_size (source : Source) :
    source.formulaCells.length ≤
      source.results.2.progress.size + chainsTooLong source.results.1 := by
  have right := (source.consistency.carries_visitRoots source.formulaCells).1
  rw [run_visitRoots_formulaCells] at right
  dsimp only at right
  obtain ⟨kept, sublist, remembered, length⟩ :=
    exists_remembered (fun _ member => formulaAt_of_mem_formulaCells member) right
  have bounded := length_le_size (source.nodup_formulaCells.sublist sublist) remembered
  rw [chainsTooLong]
  omega

theorem formulaCount_ofResults (source : Source) :
    (Statistics.ofResults source.results.1 source.results.2).formulaCount =
      source.formulaCells.length := by
  have length := (source.consistency.carries_visitRoots source.formulaCells).1.length_eq
  rw [run_visitRoots_formulaCells, List.length_filterMap_eq_countP] at length
  rw [length, Statistics.ofResults]
  simp only [CellResult.isSome_outcome?]

/-- What is computed is remembered, except for the cells that each chain that is too long leaves
without a result. -/
theorem computed_results (source : Source) :
    source.results.2.computed =
      source.results.2.progress.size +
        source.options.maxDepth * chainsTooLong source.results.1 := by
  have balanced := source.balanced_visitRoots source.formulaCells Walk.sound_start
  rw [run_visitRoots_formulaCells, Walk.Balanced] at balanced
  have nothing : Walk.start.progress.size = 0 := Std.TreeMap.size_emptyc
  rw [nothing, Nat.add_zero] at balanced
  exact balanced.trans (congrArg (· + _) (Nat.zero_add _))

theorem Visits.computed_of_no_room {path : List Address} {address : Address} {walk after : Walk}
    {outcome : Outcome Value} (visits : source.Visits 0 path address walk outcome after) :
    after.computed = walk.computed := by
  cases visits <;> rfl

theorem Answers.computed_of_no_room {path : List Address} {inquiry : Inquiry Value}
    {walk after : Walk} {outcome : Outcome Value} :
    source.Answers 0 path inquiry walk outcome after → after.computed = walk.computed
  | .done _ => rfl
  | .failed visits => visits.computed_of_no_room
  | .answered visits answers =>
      answers.computed_of_no_room.trans visits.computed_of_no_room

/-- With room for one cell only, no other formula is computed on the way. -/
theorem Visits.computed_le {path : List Address} {address : Address} {walk after : Walk}
    {outcome : Outcome Value} (visits : source.Visits 1 path address walk outcome after) :
    after.computed ≤ walk.computed + 1 := by
  cases visits with
  | settled _ => exact Nat.le_succ _
  | pending _ => exact Nat.le_succ _
  | circular _ _ => exact Nat.le_succ _
  | missing _ _ _ => exact Nat.le_succ _
  | literal _ _ _ _ => exact Nat.le_succ _
  | formula _ _ _ answers => exact Nat.succ_le_succ (Nat.le_of_eq answers.computed_of_no_room)

theorem computed_visitRoots_le (single : source.options.maxDepth = 1) (calls : List Address)
    (walk : Walk) :
    ((source.visitRoots calls).run walk).2.computed ≤ walk.computed + calls.length := by
  induction calls generalizing walk with
  | nil => exact Nat.le_refl _
  | cons address rest ih =>
      obtain ⟨after, visits, same⟩ := source.visits_visitRoot address walk
      rw [single] at visits
      have first : (source.visitRoot address walk).2.computed ≤ walk.computed + 1 := by
        rw [same]
        exact visits.computed_le
      have others := ih (source.visitRoot address walk).2
      rw [run_visitRoots_cons, List.length_cons]
      dsimp only
      omega

/-- How often formulas are computed in an evaluation. Each cell whose result is that a chain is too
long costs as many computations as the limit allows cells in a row, and nothing is remembered of
them; every other computation gives a cell the result that is remembered. So there are no more
computations than formulas exactly when no chain is too long or chains may have one cell only, and
then there are as many. -/
theorem cellsCalculated_bounds (source : Source) (accepted : source.options.validate = .ok ()) :
    let statistics := (evaluateWithStatistics source).2
    let tooLong := chainsTooLong source.results.1
    statistics.formulaCount + (source.options.maxDepth - 1) * tooLong ≤
        statistics.cellsCalculated ∧
      statistics.cellsCalculated ≤ statistics.formulaCount + source.options.maxDepth * tooLong ∧
      (statistics.cellsCalculated ≤ statistics.formulaCount ↔
        tooLong = 0 ∨ source.options.maxDepth = 1) ∧
      (source.options.maxDepth = 1 → statistics.cellsCalculated = statistics.formulaCount) := by
  have formulas := source.formulaCount_ofResults
  have computed := source.computed_results
  have upper := size_le_formulaCells source.consistency.carries_results.2.2
  have lower := source.formulaCells_le_size
  have calculated : (evaluateWithStatistics source).2.cellsCalculated =
      source.results.2.computed := by
    rw [evaluateWithStatistics, accepted]
    rfl
  have counted : (evaluateWithStatistics source).2.formulaCount = source.formulaCells.length := by
    rw [← formulas, evaluateWithStatistics, accepted]
  have positive : 1 ≤ source.options.maxDepth := (source.options.validate_eq_ok_iff.1 accepted).1
  have once (single : source.options.maxDepth = 1) :
      source.results.2.computed ≤ source.formulaCells.length := by
    have bounded := computed_visitRoots_le single source.formulaCells Walk.start
    rw [run_visitRoots_formulaCells] at bounded
    exact Nat.le_trans bounded (Nat.le_of_eq (Nat.zero_add _))
  generalize chainsTooLong source.results.1 = tooLong at lower computed ⊢
  have product : source.options.maxDepth * tooLong =
      (source.options.maxDepth - 1) * tooLong + tooLong := by
    rw [← Nat.succ_mul, Nat.succ_eq_add_one, Nat.sub_add_cancel positive]
  have below : source.formulaCells.length + (source.options.maxDepth - 1) * tooLong ≤
      source.results.2.computed := by omega
  dsimp only
  rw [calculated, counted]
  refine ⟨below, by omega, ⟨fun bounded => ?_, ?_⟩, fun single => ?_⟩
  · have again : (source.options.maxDepth - 1) * tooLong = 0 := by omega
    rcases Nat.mul_eq_zero.1 again with single | none_long
    · right
      omega
    · exact .inl none_long
  · rintro (rfl | single)
    · omega
    · exact once single
  · have bounded := once single
    omega

/-- The first of three cells refers to one that it may not reach, the others do not. -/
def ladderSheet : Source where
  grid := { rows := [["=A2"], ["=A3"], ["=1"]] }
  tableId := "t"
  options := { maxDepth := 2, maxRangeCells := 100000 }
  draws _ _ := .lowest

theorem cellsCalculated_bounds_ladderSheet :
    ladderSheet.options.validate = .ok () ∧ chainsTooLong ladderSheet.results.1 = 1 ∧
      (evaluateWithStatistics ladderSheet).2.formulaCount + 1 ≤
        (evaluateWithStatistics ladderSheet).2.cellsCalculated ∧
      (evaluateWithStatistics ladderSheet).2.cellsCalculated ≤
        (evaluateWithStatistics ladderSheet).2.formulaCount + 2 := by
  have accepted : ladderSheet.options.validate = .ok () := rfl
  have one : chainsTooLong ladderSheet.results.1 = 1 := by decide +kernel
  obtain ⟨lower, upper, -, -⟩ := cellsCalculated_bounds ladderSheet accepted
  rw [one] at lower upper
  exact ⟨accepted, one, lower, upper⟩

/-- The second cell is computed for the first one, without result, and then once more. -/
theorem formulas_computed_again :
    ladderSheet.options.validate = .ok () ∧
      (evaluateWithStatistics ladderSheet).2.formulaCount = 3 ∧
      ¬ (evaluateWithStatistics ladderSheet).2.cellsCalculated ≤
        (evaluateWithStatistics ladderSheet).2.formulaCount := by
  decide +kernel

end Source

end Spreadsheet.Sheet

import Spreadsheet.Proofs.Numeral
import Spreadsheet.Proofs.Sheet.Consistency
import Spreadsheet.Proofs.Sheet.Locality
import Spreadsheet.Proofs.Sheet.SideBySide

/-!
Freezing a computed cell. When a cell with a value is overwritten with the value in writing, walks
stop at the cell where they went on before, and what lies below it is visited later or not at all.
But all that can be reached from the cell has values, whenever it is visited, and no circle leads
through it. Elsewhere two walks, one through each sheet, take the same steps with the same memory,
and so they find the same failures and name the same cells in them.

The main statement is that the evaluated sheet stays the same, cell by cell.
-/

set_option autoImplicit false

namespace Spreadsheet.Sheet.Source

open Relation (ReflTransGen)

variable {source other : Source} {Inside : Address → Prop}

/-- A memory of right results during a walk on which no chain has been too long. -/
structure Sure (source : Source) (steady : source.Steady) (path : List Address) (walk : Walk) :
    Prop where
  fits : (source.limit steady).Fits path walk
  clear : walk.Clear

theorem sure_start (steady : source.Steady) : source.Sure steady [] Walk.start where
  fits := (source.limit steady).fits_start
  clear := Walk.ready_start.toClear

theorem Sure.enter {steady : source.Steady} {path : List Address} {walk : Walk}
    (sure : source.Sure steady path walk) (entered : Address) :
    source.Sure steady (entered :: path) (walk.enter entered) where
  fits := sure.fits.enter entered
  clear := sure.clear.enter entered

theorem sure_visit {steady : source.Steady} {room : Nat} {path : List Address} {address : Address}
    {walk : Walk} (leads : (source.limit steady).LeadsTo room path address)
    (sure : source.Sure steady path walk) :
    source.ComesTo address ((source.visit room path address).run walk).1 ∧
      source.Sure steady path ((source.visit room path address).run walk).2 := by
  have found := Judgement.finds_visit leads sure.fits
  have visits := source.visits_visit room path address walk
  obtain ⟨flag, sound⟩ := visits.flag_iff sure.clear
  have short : ¬ TooLong ((source.visit room path address).run walk).1 := by
    intro long
    have bounded := (visits.chain sure.clear long).length_le leads.once leads.formulas
    have measured := leads.measured
    have enough := steady.enough
    omega
  exact ⟨found.1, found.2, Bool.eq_false_iff.2 (mt flag.1 short), sound⟩

/-- Two sheets with one size, name and limits that differ in some cells only. References from these
cells lead to such cells, and each of them comes to one value in both sheets. -/
structure Agreement (source other : Source) (Inside : Address → Prop) : Prop where
  surroundings : SameSurroundings source other
  options : source.options = other.options
  content : ∀ {address : Address}, ¬ Inside address →
    source.grid.get? address = other.grid.get? address
  closed : ∀ {address referred : Address}, Inside address → source.AsksFor address referred →
    Inside referred
  closedOther : ∀ {address referred : Address}, Inside address →
    other.AsksFor address referred → Inside referred
  valued : ∀ {address : Address}, Inside address →
    ∃ value, source.ComesTo address (.ok value) ∧ other.ComesTo address (.ok value)

/-- Two memories that agree on all other cells. -/
structure Alike (Inside : Address → Prop) (walk memory : Walk) : Prop where
  flag : memory.depthLimited = walk.depthLimited
  outside : ∀ {address : Address}, ¬ Inside address →
    memory.progress[address]? = walk.progress[address]?

theorem Alike.enter {walk memory : Walk} (alike : Alike Inside walk memory) (entered : Address) :
    Alike Inside (walk.enter entered) (memory.enter entered) where
  flag := alike.flag
  outside {address} notInside := by
    rw [Walk.progress_enter, Walk.progress_enter, alike.outside notInside]

theorem Alike.leave {walk memory : Walk} (alike : Alike Inside walk memory) (left : Address)
    (outcome : Outcome Value) :
    Alike Inside (walk.leave left outcome) (memory.leave left outcome) where
  flag := alike.flag
  outside {address} notInside := by
    rw [Walk.progress_leave, Walk.progress_leave, alike.outside notInside, alike.flag]

theorem unchanged_of_inside {room : Nat} {path : List Address} {address : Address}
    {walk after : Walk} {outcome : Outcome Value}
    (closed : ∀ {address referred : Address}, Inside address → source.AsksFor address referred →
      Inside referred)
    (visits : source.Visits room path address walk outcome after) (inside : Inside address)
    {asked : Address} (notInside : ¬ Inside asked) :
    after.progress[asked]? = walk.progress[asked]? := by
  refine (visits.changes asked).resolve_right fun leads => notInside ?_
  clear notInside
  induction leads with
  | refl => exact inside
  | tail _ asksFor ih => exact closed ih asksFor

section Beside

variable {steady : source.Steady} {steadyOther : other.Steady} {path : List Address}
  {walk memory : Walk}

/-- Memories of two walks, one through each sheet, that are on one path. -/
structure Beside (source other : Source) (Inside : Address → Prop) (steady : source.Steady)
    (steadyOther : other.Steady) (path : List Address) (walk memory : Walk) : Prop where
  sure : source.Sure steady path walk
  sureOther : other.Sure steadyOther path memory
  alike : Alike Inside walk memory

theorem Beside.enter (beside : source.Beside other Inside steady steadyOther path walk memory)
    (entered : Address) :
    source.Beside other Inside steady steadyOther (entered :: path) (walk.enter entered)
      (memory.enter entered) where
  sure := beside.sure.enter entered
  sureOther := beside.sureOther.enter entered
  alike := beside.alike.enter entered

/-- One outcome, which is what the cell comes to in both sheets. -/
structure Shared (source other : Source) (address : Address) (outcome twin : Outcome Value) :
    Prop where
  same : outcome = twin
  right : source.ComesTo address outcome
  rightOther : other.ComesTo address twin

theorem Beside.visits {room : Nat} {address : Address}
    (beside : source.Beside other Inside steady steadyOther path walk memory)
    (leads : (source.limit steady).LeadsTo room path address)
    (leadsOther : (other.limit steadyOther).LeadsTo room path address)
    (inStep : InStep (Alike Inside) Eq ((source.visit room path address).run walk)
      ((other.visit room path address).run memory)) :
    InStep (source.Beside other Inside steady steadyOther path) (source.Shared other address)
      ((source.visit room path address).run walk) ((other.visit room path address).run memory) := by
  obtain ⟨right, kept⟩ := sure_visit leads beside.sure
  obtain ⟨rightOther, keptOther⟩ := sure_visit leadsOther beside.sureOther
  exact ⟨⟨inStep.1, right, rightOther⟩, kept, keptOther, inStep.2⟩

/-- Visits of a cell that has one value in both sheets find this value, whatever is remembered of
the cells below it. -/
theorem inStep_inside (agreement : Agreement source other Inside) {room : Nat} {address : Address}
    (inside : Inside address) (leads : (source.limit steady).LeadsTo room path address)
    (leadsOther : (other.limit steadyOther).LeadsTo room path address)
    (beside : source.Beside other Inside steady steadyOther path walk memory) :
    InStep (Alike Inside) Eq ((source.visit room path address).run walk)
      ((other.visit room path address).run memory) := by
  obtain ⟨value, comes, comesOther⟩ := agreement.valued inside
  obtain ⟨right, kept⟩ := sure_visit leads beside.sure
  obtain ⟨rightOther, keptOther⟩ := sure_visit leadsOther beside.sureOther
  refine ⟨(right.eq_ok comes).trans (rightOther.eq_ok comesOther).symm, ?_, ?_⟩
  · exact keptOther.clear.flag.trans kept.clear.flag.symm
  · intro asked outside
    rw [unchanged_of_inside agreement.closed (source.visits_visit room path address walk) inside
        outside,
      unchanged_of_inside agreement.closedOther (other.visits_visit room path address memory) inside
        outside]
    exact beside.alike.outside outside

theorem inStep_walk {head : Address} {room : Nat}
    (visits : ∀ asked walk memory, source.Demands head asked → other.Demands head asked →
      source.Beside other Inside steady steadyOther path walk memory →
        InStep (source.Beside other Inside steady steadyOther path) (source.Shared other asked)
          ((source.visit room path asked).run walk) ((other.visit room path asked).run memory))
    {inquiry : Inquiry Value} (follows : inquiry.Follows source.Demands source.ComesTo head)
    (followsOther : inquiry.Follows other.Demands other.ComesTo head)
    (beside : source.Beside other Inside steady steadyOther path walk memory) :
    InStep (Alike Inside) Eq ((inquiry.walk (source.visit room path)).run walk)
      ((inquiry.walk (other.visit room path)).run memory) := by
  induction follows generalizing walk memory with
  | done right => exact ⟨rfl, beside.alike⟩
  | @ask asked next needs fails continues ih =>
      cases followsOther with
      | ask needsOther failsOther continuesOther =>
          have found := visits asked walk memory needs needsOther beside
          rw [Inquiry.walk, Inquiry.walk, Walking.run_bind, Walking.run_bind]
          generalize (source.visit room path asked).run walk = first at found ⊢
          generalize (other.visit room path asked).run memory = second at found ⊢
          obtain ⟨outcome, after⟩ := first
          obtain ⟨twin, later⟩ := second
          obtain ⟨⟨same, right, rightOther⟩, kept⟩ := found
          dsimp only at same right rightOther kept
          subst same
          cases outcome with
          | error error => exact ⟨rfl, kept.alike⟩
          | ok value => exact ih value right (continuesOther value rightOther) kept

/-- Visits of one cell in both sheets, over one path, have the same outcome. The induction is on the
room that is left. -/
theorem inStep_visit (agreement : Agreement source other Inside) {room : Nat} {address : Address}
    (leads : (source.limit steady).LeadsTo room path address)
    (leadsOther : (other.limit steadyOther).LeadsTo room path address)
    (beside : source.Beside other Inside steady steadyOther path walk memory) :
    InStep (Alike Inside) Eq ((source.visit room path address).run walk)
      ((other.visit room path address).run memory) := by
  induction room using Nat.strongRecOn generalizing path address walk memory with
  | ind room ih =>
      by_cases inside : Inside address
      · exact inStep_inside agreement inside leads leadsOther beside
      have alike := beside.alike
      have same := alike.outside inside
      have content := agreement.content inside
      have visited := source.visited room path address walk
      generalize (source.visit room path address).run walk = found at visited ⊢
      cases visited with
      | settled known =>
          rw [(Visited.settled (same.trans known)).run_eq]
          exact ⟨rfl, alike⟩
      | pending known =>
          rw [(Visited.pending (same.trans known)).run_eq]
          exact ⟨rfl, alike⟩
      | circular unknown onPath =>
          rw [(Visited.circular (same.trans unknown) onPath).run_eq]
          exact ⟨rfl, alike⟩
      | tooLong unknown offPath =>
          rw [(Visited.tooLong (same.trans unknown) offPath).run_eq, agreement.options]
          exact ⟨rfl, rfl, alike.outside⟩
      | missing unknown offPath absent =>
          rw [(Visited.missing (same.trans unknown) offPath (content.symm.trans absent)).run_eq]
          exact ⟨rfl, alike⟩
      | literal unknown offPath present plain =>
          rw [(Visited.literal (same.trans unknown) offPath (content.symm.trans present)
            plain).run_eq]
          exact ⟨rfl, alike⟩
      | @formula roomBelow text outcome after unknown offPath present computed =>
          have presentOther : other.FormulaAt address text :=
            ⟨content.symm.trans present.1, present.2⟩
          have follows := (source.limit steady).formula present fun _ => .lowest
          have followsOther := (other.limit steadyOther).formula presentOther fun _ => .lowest
          have asks := agreement.surroundings.inquiry_eq (congrArg _ agreement.options)
          rw [← inquiry, ← asks] at followsOther
          have inStep := inStep_walk
            (fun asked walk memory needs needsOther kept =>
              have leadsNext := leads.step offPath present needs
              have leadsNextOther := leadsOther.step offPath presentOther needsOther
              kept.visits leadsNext leadsNextOther
                (ih roomBelow (Nat.lt_succ_self _) leadsNext leadsNextOther kept))
            follows followsOther (beside.enter address)
          rcases computedOther : (other.compute (other.visit roomBelow (address :: path)) address
            text).run (memory.enter address) with ⟨twin, later⟩
          rw [← inquiry, ← compute_eq_walk steady.calm present, computed, asks,
            ← compute_eq_walk steadyOther.calm presentOther, computedOther] at inStep
          obtain ⟨rfl, alikeAfter⟩ : outcome = twin ∧ Alike Inside after later := inStep
          rw [(Visited.formula (same.trans unknown) offPath presentOther computedOther).run_eq]
          exact ⟨rfl, alikeAfter.leave address outcome⟩

end Beside

theorem Sure.visitRoot_eq {steady : source.Steady} {walk : Walk}
    (sure : source.Sure steady [] walk) (address : Address) :
    source.visitRoot address walk =
      (source.visit source.options.maxDepth [] address).run walk := by
  have entered : { walk with depthLimited := false } = walk := by
    rw [← sure.clear.flag]
  have left := (sure_visit ((source.limit steady).leadsTo_start address) sure).2.clear.flag
  rw [visitRoot, entered]
  generalize (source.visit source.options.maxDepth [] address).run walk = found at left ⊢
  obtain ⟨outcome, after⟩ := found
  dsimp only at left ⊢
  rw [← left]

section Freeze

variable {address : Address} {value : Value} {text : String}

/-- The sheet with a cell overwritten by a value in writing. -/
def freeze (source : Source) (address : Address) (value : Value) : Source :=
  source.withGrid (source.grid.set address value.display)

theorem sameSurroundings_freeze (source : Source) (address : Address) (value : Value) :
    SameSurroundings source (source.freeze address value) :=
  sameSurroundings_withGrid (Grid.shape_set _ _ _)

theorem get?_freeze_self (present : source.FormulaAt address text) :
    (source.freeze address value).grid.get? address = some value.display :=
  Grid.get?_set_self present.1

theorem get?_freeze_of_ne {asked : Address} (elsewhere : asked ≠ address) :
    (source.freeze address value).grid.get? asked = source.grid.get? asked :=
  Grid.get?_set_of_ne elsewhere _ _

theorem approximation_freeze (present : source.FormulaAt address text)
    (comes : source.ComesTo address (.ok value)) (reads : Value.ofLiteral value.display = value)
    (plain : isFormula value.display = false) (round : Nat) {asked : Address} {known : Value}
    (found : source.approximation round asked = .ok known) :
    (source.freeze address value).approximation round asked = .ok known := by
  induction round generalizing asked known with
  | zero => cases found
  | succ round ih =>
      by_cases same : asked = address
      · subst same
        rw [← comes.approximation_eq found, approximation,
          resultOf_literal (get?_freeze_self present) plain, reads]
      · exact (source.sameSurroundings_freeze address value).resultOf_eq_ok (Nat.le_refl _)
          (get?_freeze_of_ne same).symm (fun _ _ => ih) found

/-- The sheet and the frozen sheet agree on all cells that cannot be reached from the frozen one. -/
theorem agreement_freeze (present : source.FormulaAt address text)
    (comes : source.ComesTo address (.ok value)) (reads : Value.ofLiteral value.display = value)
    (plain : isFormula value.display = false) :
    Agreement source (source.freeze address value) (ReflTransGen source.AsksFor address) where
  surroundings := source.sameSurroundings_freeze address value
  options := rfl
  content {asked} outside := by
    refine (get?_freeze_of_ne ?_).symm
    rintro rfl
    exact outside .refl
  closed leads asksFor := leads.tail asksFor
  closedOther {asked referred} leads asksFor := by
    obtain ⟨formula, there, asks⟩ := asksFor
    by_cases same : asked = address
    · subst same
      exact (there.not_plain (get?_freeze_self present) plain).elim
    · exact leads.tail ⟨formula, ⟨(get?_freeze_of_ne same).symm.trans there.1, there.2⟩, asks⟩
  valued leads := by
    obtain ⟨known, reached⟩ := comesTo_of_reachable comes leads
    obtain ⟨round, found⟩ := reached.reached.resolve_left (not_circular_ok known)
    have frozen := approximation_freeze present comes reads plain round found
    exact ⟨known, reached, comesTo_of_approximation frozen (not_circular_ok known)⟩

/-- What becomes of a cell with its address. -/
inductive Rewritten (address : Address) (value : Value) :
    Address × String → Address × String → Prop
  | kept (cell : Address × String) : Rewritten address value cell cell
  | frozen {text : String} (formula : isFormula text = true) :
      Rewritten address value (address, text) (address, value.display)

theorem rewritten_freeze (present : source.FormulaAt address text) (value : Value) :
    Grid.Related (Rewritten address value) source.grid.addressed
      (source.freeze address value).grid.addressed := by
  apply Grid.related_of_get?
  · rw [Grid.shape_addressed, Grid.shape_addressed]
    exact (Grid.shape_set _ _ _).symm
  · intro asked
    rw [Grid.get?_addressed, Grid.get?_addressed]
    by_cases same : asked = address
    · subst same
      rw [get?_freeze_self present, present.1]
      exact .some (.frozen present.2)
    · rw [get?_freeze_of_ne same]
      cases source.grid.get? asked with
      | none => exact .none
      | some content => exact .some (.kept _)

theorem formulaCells_freeze (present : source.FormulaAt address text)
    (plain : isFormula value.display = false) :
    (source.freeze address value).formulaCells.Sublist source.formulaCells := by
  have cells := List.rel_flatten (rewritten_freeze present value)
  refine List.Sublist.map Prod.fst ?_
  generalize source.grid.addressed.rows.flatten = before at cells ⊢
  generalize (source.freeze address value).grid.addressed.rows.flatten = after at cells ⊢
  induction cells with
  | nil => exact .slnil
  | @cons cell twin others twins becomes rest ih =>
      cases becomes with
      | kept =>
          rw [List.filter_cons, List.filter_cons]
          split
          · exact ih.cons_cons _
          · exact ih
      | frozen formula =>
          simp only [List.filter_cons, formula, plain, Bool.false_eq_true, if_true, if_false]
          exact ih.cons _

variable {steady : source.Steady} {steadyOther : other.Steady} {walk memory : Walk}

theorem inStep_visitRoot (agreement : Agreement source other Inside) (asked : Address)
    (beside : source.Beside other Inside steady steadyOther [] walk memory) :
    InStep (source.Beside other Inside steady steadyOther []) (source.Shared other asked)
      (source.visitRoot asked walk) (other.visitRoot asked memory) := by
  have leads := (source.limit steady).leadsTo_start asked
  have leadsOther := (other.limit steadyOther).leadsTo_start asked
  rw [beside.sure.visitRoot_eq, beside.sureOther.visitRoot_eq, ← agreement.options]
  rw [← agreement.options] at leadsOther
  exact beside.visits leads leadsOther (inStep_visit agreement leads leadsOther beside)

/-- The frozen cell is visited in the sheet only. Its result is the value that is written in the
frozen sheet, and the memories still agree on all cells that cannot be reached from it. -/
theorem Beside.visit_frozen (agreement : Agreement source other Inside) (inside : Inside address)
    (comes : source.ComesTo address (.ok value))
    (beside : source.Beside other Inside steady steadyOther [] walk memory) :
    (source.visitRoot address walk).1 = .ok value ∧
      source.Beside other Inside steady steadyOther [] (source.visitRoot address walk).2
        memory := by
  have leads := (source.limit steady).leadsTo_start address
  rw [beside.sure.visitRoot_eq]
  obtain ⟨right, kept⟩ := sure_visit leads beside.sure
  refine ⟨right.eq_ok comes, kept, beside.sureOther, ?_, ?_⟩
  · exact beside.sureOther.clear.flag.trans kept.clear.flag.symm
  · intro asked outside
    rw [unchanged_of_inside agreement.closed (source.visits_visit _ [] address walk) inside outside]
    exact beside.alike.outside outside

theorem inStep_evaluateCell (agreement : Agreement source other Inside) (inside : Inside address)
    (comes : source.ComesTo address (.ok value)) (plain : isFormula value.display = false)
    {cell twin : Address × String} (becomes : Rewritten address value cell twin)
    (beside : source.Beside other Inside steady steadyOther [] walk memory) :
    InStep (source.Beside other Inside steady steadyOther [])
      (fun result frozen => result.text = frozen.text) ((source.evaluateCell cell).run walk)
      ((other.evaluateCell twin).run memory) := by
  rw [evaluateCell, evaluateCell]
  cases becomes with
  | kept =>
      cases formula : isFormula cell.2 with
      | false => exact ⟨rfl, beside⟩
      | true =>
          obtain ⟨found, kept⟩ := inStep_visitRoot agreement cell.1 beside
          exact ⟨congrArg (fun outcome => (CellResult.computed outcome).text) found.same, kept⟩
  | frozen formula =>
      obtain ⟨found, kept⟩ := beside.visit_frozen agreement inside comes
      rw [if_pos formula, plain]
      exact ⟨congrArg (fun outcome => (CellResult.computed outcome).text) found, kept⟩

theorem callsRandom_freeze (present : source.FormulaAt address text)
    (plain : isFormula value.display = false) (calm : source.callsRandom = false) :
    (source.freeze address value).callsRandom = false := by
  refine callsRandom_eq_false_iff.2 fun asked formula there => ?_
  by_cases same : asked = address
  · subst same
    exact (there.not_plain (get?_freeze_self present) plain).elim
  · have before : source.FormulaAt asked formula :=
      ⟨(get?_freeze_of_ne same).symm.trans there.1, there.2⟩
    exact callsRandom_eq_false_iff.1 calm asked formula before

/-- Freezing a computed cell changes nothing. When a formula cell has a value that is read back from
its own writing, the sheet evaluates as before after the formula has been replaced by the value, in
the texts of all cells and of all errors. Every integer is such a value. No chain of formula cells
may be too long, and no formula may call a random function. -/
theorem evaluate_freeze (source : Source) (calm : source.callsRandom = false)
    (enough : source.formulaCells.length < source.options.maxDepth) :
    (∀ address value, source.outcome? address = some (.ok value) →
      Value.ofLiteral value.display = value → isFormula value.display = false →
        evaluate (source.freeze address value) = evaluate source) ∧
      ∀ n : Int64, Value.ofLiteral (Value.int n).display = Value.int n ∧
        isFormula (Value.int n).display = false := by
  refine ⟨?_, fun n => ⟨Value.ofLiteral_display_int n, Value.isFormula_display_int n⟩⟩
  intro address value evaluated reads plain
  have steady : source.Steady := ⟨calm, enough⟩
  obtain ⟨⟨text, present⟩, comes⟩ :=
    (source.limit steady).account.right_of_outcome evaluated
  have steadyFrozen : (source.freeze address value).Steady := {
    calm := callsRandom_freeze present plain calm
    enough := Nat.lt_of_le_of_lt (formulaCells_freeze present plain).length_le enough }
  have agreement := agreement_freeze present comes reads plain
  have start : source.Beside (source.freeze address value) (ReflTransGen source.AsksFor address)
      steady steadyFrozen [] Walk.start Walk.start :=
    ⟨sure_start steady, sure_start steadyFrozen, rfl, fun _ => rfl⟩
  have texts := related_results start
    (fun cell twin becomes walk memory beside =>
      inStep_evaluateCell agreement .refl comes plain becomes beside)
    (rewritten_freeze present value)
  have limits : (source.freeze address value).options = source.options := rfl
  rw [evaluate, evaluate, evaluateWithStatistics, evaluateWithStatistics, limits]
  cases source.options.validate with
  | error error => rfl
  | ok _ => exact (Grid.map_eq_of_related texts).symm

/-- The least integer, an error that comes from it, and a circle that leads to it. -/
def frostSheet : Source where
  grid := { rows := [["=B2", "=-9223372036854775807-C1", "=1-0"], ["=A1&B1", "=C2", "=B1/0"],
    ["=B1+B3", "=A3", "=B1+1"]] }
  tableId := "frost"
  options := { maxDepth := 12, maxRangeCells := 1 }
  draws _ _ := .lowest

theorem evaluate_freeze_frostSheet :
    frostSheet.callsRandom = false ∧ frostSheet.formulaCells.length < 12 ∧
      frostSheet.outcome? ⟨0, 1⟩ = some (.ok (.int (-9223372036854775808))) ∧
      evaluate (frostSheet.freeze ⟨0, 1⟩ (.int (-9223372036854775808))) = evaluate frostSheet := by
  have calm : frostSheet.callsRandom = false := by decide +kernel
  have enough : frostSheet.formulaCells.length < 12 := by decide +kernel
  have found : frostSheet.outcome? ⟨0, 1⟩ = some (.ok (.int (-9223372036854775808))) := by
    decide +kernel
  obtain ⟨frozen, integers⟩ := evaluate_freeze frostSheet calm enough
  obtain ⟨reads, plain⟩ := integers (-9223372036854775808)
  exact ⟨calm, enough, found, frozen ⟨0, 1⟩ _ found reads plain⟩

end Freeze

end Spreadsheet.Sheet.Source

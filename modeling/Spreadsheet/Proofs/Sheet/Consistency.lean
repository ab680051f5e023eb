import Spreadsheet.Proofs.Sheet.DepthLimit

/-!
A sheet that has been evaluated agrees with itself. A cell is remembered while others are still
being computed, and what it was told about a cell on the path is only that there is a circle. But
that failure is then the result of every cell on the way back, so the cell on the path ends with the
very failure that was told.

The main statement is that the result of each formula cell is what its formula comes to when its
references are looked up among the finished results, circles included.
-/

set_option autoImplicit false

namespace Spreadsheet.Sheet

/-- Answered with known results the inquiry comes to the outcome. -/
inductive Inquiry.Concludes {α : Type} (Known : Address → Outcome Value → Prop) :
    Inquiry α → Outcome α → Prop
  | done (outcome : Outcome α) : Concludes Known (.done outcome) outcome
  | failed {asked : Address} {next : Value → Inquiry α} {error : FormulaError}
      (known : Known asked (.error error)) : Concludes Known (.ask asked next) (.error error)
  | answered {asked : Address} {next : Value → Inquiry α} {value : Value} {outcome : Outcome α}
      (known : Known asked (.ok value)) (rest : Concludes Known (next value) outcome) :
      Concludes Known (.ask asked next) outcome

theorem Inquiry.Concludes.mono {α : Type} {Known More : Address → Outcome Value → Prop}
    {inquiry : Inquiry α} {outcome : Outcome α} (concludes : inquiry.Concludes Known outcome)
    (more : ∀ address result, Known address result → More address result) :
    inquiry.Concludes More outcome := by
  induction concludes with
  | done outcome => exact .done outcome
  | failed known => exact .failed (more _ _ known)
  | answered known _ ih => exact .answered (more _ _ known) ih

theorem Inquiry.Concludes.answer {α : Type} {look : Address → Outcome Value}
    {inquiry : Inquiry α} {outcome : Outcome α}
    (concludes : inquiry.Concludes (fun address result => look address = result) outcome) :
    inquiry.answer look = outcome := by
  induction concludes with
  | done outcome => rfl
  | failed known => exact answer_ask_error known _
  | answered known _ ih => exact (answer_ask_ok known _).trans ih

def Agrees (Known : Address → Outcome Value → Prop) (walk : Walk) : Prop :=
  ∀ ⦃address : Address⦄ ⦃outcome : Outcome Value⦄,
    walk.progress[address]? = some (.settled outcome) → Known address outcome

theorem Agrees.of_leave {Known : Address → Outcome Value → Prop} {walk : Walk} {left : Address}
    {outcome : Outcome Value} (agrees : Agrees Known (walk.leave left outcome))
    (entered : walk.progress[left]? = some .pending) : Agrees Known walk := by
  intro address remembered known
  by_cases same : left = address
  · subst same
    cases known.symm.trans entered
  · apply agrees
    rw [Walk.progress_leave, if_neg same]
    exact known

/-- A memory during a walk over the path: no chain has been too long so far, and the cells that are
being computed are on the path. -/
structure Walk.Ready (path : List Address) (walk : Walk) : Prop extends walk.Clear where
  pending : ∀ {address : Address}, walk.progress[address]? = some .pending → address ∈ path

theorem Walk.ready_start : Walk.start.Ready [] where
  flag := rfl
  sound := Walk.sound_start
  pending {address} known := by
    rw [Walk.progress_start] at known
    cases known

theorem Walk.Ready.enter {path : List Address} {walk : Walk} (ready : walk.Ready path)
    (entered : Address) : (walk.enter entered).Ready (entered :: path) where
  toClear := ready.toClear.enter entered
  pending {address} known := by
    rw [Walk.progress_enter] at known
    split at known
    · rename_i same
      rw [same]
      exact List.mem_cons_self
    · exact List.mem_cons_of_mem _ (ready.pending known)

namespace Source

variable {source : Source} {Known : Address → Outcome Value → Prop}

/-- What the sheet says by itself of a cell that holds no formula. -/
inductive Plain (source : Source) : Address → Outcome Value → Prop
  | missing {address : Address} (absent : source.grid.get? address = none) :
      Plain source address (.error (.reference (.missingCell address)))
  | literal {address : Address} {text : String} (present : source.grid.get? address = some text)
      (plain : isFormula text = false) : Plain source address (.ok (Value.ofLiteral text))

/-- Each remembered result is what the formula of its cell comes to by known results, with the draws
of one computation. -/
def Solves (source : Source) (Known : Address → Outcome Value → Prop) (walk : Walk) : Prop :=
  ∀ ⦃address : Address⦄ ⦃outcome : Outcome Value⦄,
    walk.progress[address]? = some (.settled outcome) →
      ∃ text draws, source.FormulaAt address text ∧
        (source.drawnInquiry draws address text).Concludes Known outcome

theorem Solves.mono {More : Address → Outcome Value → Prop} {walk : Walk}
    (solves : source.Solves Known walk)
    (more : ∀ address result, Known address result → More address result) :
    source.Solves More walk := by
  intro address outcome known
  obtain ⟨text, draws, present, concludes⟩ := solves known
  exact ⟨text, draws, present, concludes.mono more⟩

theorem Solves.enter {walk : Walk} (solves : source.Solves Known walk) (entered : Address) :
    source.Solves Known (walk.enter entered) := by
  intro address remembered known
  rw [Walk.progress_enter] at known
  split at known
  · cases known
  · exact solves known

theorem Solves.leave {walk : Walk} {left : Address} {text : String} {draws : Draws}
    {outcome : Outcome Value} (solves : source.Solves Known walk)
    (present : source.FormulaAt left text) (flag : walk.depthLimited = true ↔ TooLong outcome)
    (concludes : ¬ TooLong outcome →
      (source.drawnInquiry draws left text).Concludes Known outcome) :
    source.Solves Known (walk.leave left outcome) := by
  intro address remembered known
  rw [Walk.progress_leave] at known
  split at known
  · rename_i same
    split at known
    · cases known
    · rename_i kept
      cases known
      refine ⟨text, draws, same ▸ present, same ▸ concludes fun long => kept ?_⟩
      obtain ⟨named, limit, rfl⟩ := long
      rw [flag.2 ⟨named, limit, rfl⟩]
      rfl
  · exact solves known

theorem Visits.ready {room : Nat} {path : List Address} {address : Address} {walk after : Walk}
    {outcome : Outcome Value} (visits : source.Visits room path address walk outcome after)
    (ready : walk.Ready path) (short : ¬ TooLong outcome) : after.Ready path where
  flag := Bool.eq_false_iff.2 (mt (visits.flag_iff ready.toClear).1.1 short)
  sound := (visits.flag_iff ready.toClear).2
  pending known := ready.pending (visits.grows.pending known)

theorem Visits.settles {room : Nat} {path : List Address} {address : Address} {walk after : Walk}
    {outcome : Outcome Value} {text : String}
    (visits : source.Visits room path address walk outcome after) (ready : walk.Ready path)
    (short : ¬ TooLong outcome) (offPath : address ∉ path)
    (present : source.FormulaAt address text) :
    after.progress[address]? = some (.settled outcome) := by
  have clear := (visits.ready ready short).flag
  cases visits with
  | settled known => exact known
  | pending known => exact absurd (ready.pending known) offPath
  | circular unknown onPath => exact absurd onPath offPath
  | tooLong unknown off => exact absurd ⟨_, _, rfl⟩ short
  | missing unknown off absent => cases present.1.symm.trans absent
  | literal unknown off there plain => exact (present.not_plain there plain).elim
  | @formula room path address walk after text draws outcome unknown offPath present answers =>
      have kept : after.depthLimited = false := clear
      rw [Walk.progress_leave, if_pos rfl, kept]
      rfl

mutual

/-- What is known at the end includes what a visit finds, if it includes what is remembered and if
the outcome, should it be a failure, is known of each cell on the path. -/
theorem Visits.solves {room : Nat} {path : List Address} {address : Address} {walk after : Walk}
    {outcome : Outcome Value} (plain : ∀ cell result, source.Plain cell result → Known cell result)
    (ready : walk.Ready path) (agrees : Agrees Known after)
    (fails : ¬ TooLong outcome → ∀ error, outcome = .error error →
      ∀ passed ∈ path, Known passed (.error error))
    (solves : source.Solves Known walk) :
    source.Visits room path address walk outcome after →
      (¬ TooLong outcome → Known address outcome) ∧ source.Solves Known after
  | .settled known => ⟨fun _ => agrees known, solves⟩
  | .pending known => ⟨fun short => fails short _ rfl _ (ready.pending known), solves⟩
  | .circular _ onPath => ⟨fun short => fails short _ rfl _ onPath, solves⟩
  | .tooLong _ _ => ⟨fun short => absurd ⟨_, _, rfl⟩ short, solves⟩
  | .missing _ _ absent => ⟨fun _ => plain _ _ (.missing absent), solves⟩
  | .literal _ _ present literal => ⟨fun _ => plain _ _ (.literal present literal), solves⟩
  | .formula unknown offPath present answers => by
      have found (short : ¬ TooLong outcome) : Known address outcome := by
        apply agrees
        exact (Visits.formula unknown offPath present answers).settles ready short offPath present
      have agreesInside := agrees.of_leave (answers.grows.keeps (walk.progress_enter_self address))
      have failsInside : ¬ TooLong outcome → ∀ error, outcome = .error error →
          ∀ passed ∈ address :: path, Known passed (.error error) := by
        intro short error failed passed member
        rcases List.mem_cons.1 member with same | earlier
        · rw [same, ← failed]
          exact found short
        · exact fails short error failed passed earlier
      obtain ⟨answered, kept⟩ := Answers.solves plain (ready.enter address) agreesInside
        failsInside (solves.enter address) answers
      have flag := (answers.flag_iff (ready.toClear.enter address) (yields_notTooLong present)).1
      exact ⟨found, kept.leave present flag answered⟩

theorem Answers.solves {room : Nat} {path : List Address} {inquiry : Inquiry Value}
    {walk after : Walk} {outcome : Outcome Value}
    (plain : ∀ cell result, source.Plain cell result → Known cell result)
    (ready : walk.Ready path) (agrees : Agrees Known after)
    (fails : ¬ TooLong outcome → ∀ error, outcome = .error error →
      ∀ passed ∈ path, Known passed (.error error))
    (solves : source.Solves Known walk) :
    source.Answers room path inquiry walk outcome after →
      (¬ TooLong outcome → inquiry.Concludes Known outcome) ∧ source.Solves Known after
  | .done outcome => ⟨fun _ => .done outcome, solves⟩
  | .failed visits => by
      obtain ⟨found, kept⟩ := Visits.solves plain ready agrees fails solves visits
      exact ⟨fun short => .failed (found short), kept⟩
  | .answered visits answers => by
      have agreesFirst : Agrees Known _ := fun _ _ known => agrees (answers.grows.keeps known)
      obtain ⟨found, kept⟩ := Visits.solves plain ready agreesFirst
        (fun _ _ failed => by cases failed) solves visits
      have readyNext := visits.ready ready (not_tooLong_ok _)
      obtain ⟨concludes, keptAll⟩ :=
        Answers.solves plain readyNext agrees fails kept answers
      exact ⟨fun short => .answered (found (not_tooLong_ok _)) (concludes short), keptAll⟩

end

/-- What can be said of a cell without computing anything. -/
def Knows (source : Source) (walk : Walk) (address : Address) (outcome : Outcome Value) : Prop :=
  walk.progress[address]? = some (.settled outcome) ∨ source.Plain address outcome

def Justified (source : Source) (walk : Walk) : Prop :=
  source.Solves (source.Knows walk) walk

theorem justified_start (source : Source) : source.Justified Walk.start := by
  intro address outcome known
  rw [Walk.progress_start] at known
  cases known

theorem Grows.knows {walk after : Walk} (grows : source.Grows walk after) (address : Address)
    (outcome : Outcome Value) (known : source.Knows walk address outcome) :
    source.Knows after address outcome :=
  known.imp_left fun remembered => grows.keeps remembered

/-- A visit keeps what is remembered justified, unless it fails while other cells are still being
computed. -/
theorem Visits.justified {room : Nat} {path : List Address} {address : Address}
    {walk after : Walk} {outcome : Outcome Value}
    (visits : source.Visits room path address walk outcome after) (ready : walk.Ready path)
    (justified : source.Justified walk)
    (free : ∀ error, outcome = .error error → path = []) : source.Justified after := by
  refine (visits.solves (fun _ _ plain => .inr plain) ready (fun _ _ known => .inl known) ?_
    (justified.mono visits.grows.knows)).2
  intro _ error failed passed member
  rw [free error failed] at member
  cases member

def consistency (source : Source) : Account source where
  Keeps walk := walk.Ready [] ∧ source.Justified walk
  Right walk address outcome := ¬ TooLong outcome → ∀ text, source.FormulaAt address text →
    walk.progress[address]? = some (.settled outcome)
  start := ⟨Walk.ready_start, source.justified_start⟩
  lasts grows _ _ remembered short text present := grows.keeps (remembered short text present)
  visits address walk := by
    rintro ⟨ready, justified⟩
    obtain ⟨after, visits, same⟩ := source.visits_visitRoot address walk
    rw [same]
    have readyRoot : Walk.Ready [] { walk with depthLimited := false } :=
      ⟨⟨rfl, ready.sound⟩, ready.pending⟩
    have sound := (visits.flag_iff readyRoot.toClear).2
    refine ⟨?_, ⟨⟨rfl, sound⟩, fun known => ready.pending (visits.grows.pending known)⟩, ?_⟩
    · intro short text present
      exact visits.settles readyRoot short List.not_mem_nil present
    · exact visits.justified readyRoot justified fun _ _ => rfl

theorem not_tooLong_of_enough (enough : source.formulaCells.length < source.options.maxDepth)
    {address : Address} {outcome : Outcome Value} (found : source.outcome? address = some outcome) :
    ¬ TooLong outcome := by
  intro long
  have chain := (source.chains.right_of_outcome found).2 long
  have bounded := chain.length_le List.nodup_nil nofun
  rw [List.length_nil] at bounded
  omega

/-- The results of an evaluation, as they can be read off when it is finished. -/
def finished (source : Source) (address : Address) : Outcome Value :=
  match source.results.1.get? address with
  | none => .error (.reference (.missingCell address))
  | some (.literal text) => .ok (Value.ofLiteral text)
  | some (.computed outcome) => outcome

theorem finished_of_plain {address : Address} {outcome : Outcome Value}
    (plain : source.Plain address outcome) : source.finished address = outcome := by
  have reported := source.consistency.reported address
  rw [finished]
  generalize source.results.1.get? address = result at reported ⊢
  cases plain with
  | missing absent =>
      cases reported with
      | missing _ => rfl
      | literal there _ => cases there.symm.trans absent
      | computed there _ => cases there.1.symm.trans absent
  | literal present literal =>
      cases reported with
      | missing absent => cases present.symm.trans absent
      | literal there _ =>
          cases present.symm.trans there
          rfl
      | computed there _ => exact (there.not_plain present literal).elim

theorem finished_of_outcome {address : Address} {outcome : Outcome Value}
    (found : source.outcome? address = some outcome) : source.finished address = outcome := by
  rw [finished, outcome?_eq_some_iff.1 found]

theorem finished_remembered (enough : source.formulaCells.length < source.options.maxDepth)
    {address : Address} {text : String} (present : source.FormulaAt address text) :
    source.results.2.progress[address]? = some (.settled (source.finished address)) := by
  obtain ⟨outcome, found⟩ := source.chains.evaluated present
  have evaluated := outcome?_eq_some_iff.2 found
  have remembered := (source.consistency.right_of_outcome evaluated).2
  rw [finished_of_outcome evaluated]
  exact remembered (not_tooLong_of_enough enough evaluated) text present

theorem finished_of_knows (enough : source.formulaCells.length < source.options.maxDepth)
    (address : Address) (outcome : Outcome Value)
    (known : source.Knows source.results.2 address outcome) :
    source.finished address = outcome := by
  rcases known with remembered | plain
  · obtain ⟨text, _, present, -⟩ := source.consistency.carries_results.2.1.2 remembered
    cases (finished_remembered enough present).symm.trans remembered
    rfl
  · exact finished_of_plain plain

/-- The results of an evaluation without chance solve their own equations. -/
theorem outcomeOf_finished (calm : source.callsRandom = false)
    (enough : source.formulaCells.length < source.options.maxDepth)
    {address : Address} {formula : String} (present : source.FormulaAt address formula) :
    source.outcomeOf source.finished address formula = source.finished address := by
  obtain ⟨text, draws, there, concludes⟩ :=
    source.consistency.carries_results.2.1.2 (finished_remembered enough present)
  cases present.1.symm.trans there.1
  rw [drawnInquiry_eq calm present] at concludes
  rw [outcomeOf_eq_answer]
  exact (concludes.mono (finished_of_knows enough)).answer

/-- The evaluated sheet is consistent. As long as no chain can be too long and no formula calls a
random function, it has the shape of the sheet, holds every cell without formula as it is, and shows
for each formula cell a value or a message with a mark in front. What it shows is what the formula
comes to when its references are looked up among the finished results. The lookup is that of
`outcomeOf`: references from left to right, the cells of a block column by column after the block
was checked, and the first failure is the result, whichever cell it names. -/
theorem evaluate_consistent (source : Source) (calm : source.callsRandom = false)
    (enough : source.formulaCells.length < source.options.maxDepth)
    (blocks : 0 < source.options.maxRangeCells) :
    (evaluateWithStatistics source).1.shape = source.grid.shape ∧
      (∀ address text, source.grid.get? address = some text → isFormula text = false →
        (evaluateWithStatistics source).1.get? address = some text) ∧
      ∀ address formula, source.FormulaAt address formula → ∃ outcome,
        (∀ value, outcome = .ok value →
          (evaluateWithStatistics source).1.get? address = some value.display) ∧
        (∀ error, outcome = .error error →
          (evaluateWithStatistics source).1.get? address = some ("!ERROR! " ++ error.message)) ∧
        source.finished address = outcome ∧
        source.outcomeOf source.finished address formula = outcome := by
  have accepted : source.options.validate = .ok () :=
    source.options.validate_eq_ok_iff.2 ⟨Nat.zero_lt_of_lt enough, blocks⟩
  refine ⟨shape_evaluate accepted, ?_, ?_⟩
  · intro address text present literal
    have reported := source.consistency.reported address
    rw [get?_evaluateWithStatistics accepted]
    generalize source.results.1.get? address = result at reported ⊢
    cases reported with
    | missing absent => cases present.symm.trans absent
    | literal there plain =>
        cases present.symm.trans there
        rfl
    | computed there right => exact (there.not_plain present literal).elim
  · intro address formula present
    obtain ⟨outcome, found⟩ := source.consistency.evaluated present
    have same : source.finished address = outcome := by rw [finished, found]
    have shown : (evaluateWithStatistics source).1.get? address =
        some (CellResult.computed outcome).text := by
      rw [get?_evaluateWithStatistics accepted, found]
      rfl
    refine ⟨outcome, ?_, ?_, same, ?_⟩
    · rintro value rfl
      exact shown
    · rintro error rfl
      exact shown
    · rw [outcomeOf_finished calm enough present, same]

/-- A circle that is entered in its middle, a block that covers it, and failures of other kinds. -/
def ledgerSheet : Source where
  grid := { rows := [["=B2", "total", "=A1"], ["=C1&TABLE_ID", "=A2+1", "=SUM(A1:B2)"], ["=Z9"]] }
  tableId := "ledger"
  options := { maxDepth := 7, maxRangeCells := 4 }
  draws _ _ := .lowest

theorem evaluate_consistent_ledgerSheet :
    ledgerSheet.callsRandom = false ∧ ledgerSheet.formulaCells.length < 7 ∧
      (evaluate ledgerSheet).shape = [3, 3, 1] ∧
      (evaluate ledgerSheet).get? ⟨0, 1⟩ = some "total" ∧
      ∃ outcome,
        (∀ value, outcome = .ok value →
          (evaluate ledgerSheet).get? ⟨1, 2⟩ = some value.display) ∧
        (∀ error, outcome = .error error →
          (evaluate ledgerSheet).get? ⟨1, 2⟩ = some ("!ERROR! " ++ error.message)) ∧
        ledgerSheet.finished ⟨1, 2⟩ = outcome ∧
        ledgerSheet.outcomeOf ledgerSheet.finished ⟨1, 2⟩ "=SUM(A1:B2)" = outcome := by
  have calm : ledgerSheet.callsRandom = false := by decide +kernel
  have enough : ledgerSheet.formulaCells.length < 7 := by decide +kernel
  obtain ⟨shape, literals, formulas⟩ := evaluate_consistent ledgerSheet calm enough (by decide)
  exact ⟨calm, enough, shape, literals ⟨0, 1⟩ "total" rfl (by decide +kernel),
    formulas ⟨1, 2⟩ "=SUM(A1:B2)" ⟨rfl, by decide +kernel⟩⟩

end Source

end Spreadsheet.Sheet

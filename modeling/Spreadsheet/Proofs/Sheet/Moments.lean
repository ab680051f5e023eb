import Spreadsheet.Proofs.Sheet.Consistency

/-!
The moments of a walk. A visit begins, the visits that its formula asks for follow one after the
other, each with the memory that the one before has left, and the visit ends. Listed in this order
the moments of a walk show what is remembered at any time, also while cells are being computed and
also where a failure ends the computation in the middle of a block.

The main statement says what holds of the memory at all moments of all walks: the cells that are
being computed are those on the path, and a result that was once remembered is kept. That no moment
is left out can be seen from the number of computations, which the walk counts for itself.
-/

set_option autoImplicit false

namespace Spreadsheet.Sheet

namespace Inquiry

variable {α : Type}

/-- The cells that are asked for, up to the first failure, each with the memory that its visit
finds. -/
def asks (visit : Address → Walking Value) : Inquiry α → Walk → List (Address × Walk)
  | .done _, _ => []
  | .ask asked next, walk =>
      (asked, walk) ::
        match (visit asked).run walk with
        | (.ok value, between) => (next value).asks visit between
        | (.error _, _) => []

/-- Nothing else is asked for: ways to visit that agree on these cells and memories lead to the same
answer and the same memory. -/
theorem walk_congr {visit other : Address → Walking Value} {inquiry : Inquiry α} {walk : Walk}
    (agree : ∀ ask ∈ inquiry.asks visit walk,
      (other ask.1).run ask.2 = (visit ask.1).run ask.2) :
    (inquiry.walk other).run walk = (inquiry.walk visit).run walk := by
  induction inquiry generalizing walk with
  | done outcome => rfl
  | ask asked next ih =>
      rw [asks, List.forall_mem_cons] at agree
      rw [Inquiry.walk, Inquiry.walk, Walking.run_bind, Walking.run_bind, agree.1]
      rcases found : (visit asked).run walk with ⟨outcome, between⟩
      rw [found] at agree
      cases outcome with
      | error error => rfl
      | ok value => exact ih value agree.2

end Inquiry

theorem Source.compute_congr {source : Source} {visit other : Address → Walking Value}
    {address : Address} {formula : String} {walk : Walk}
    (agree : ∀ ask ∈ (source.resolution formula).asks visit walk,
      (other ask.1).run ask.2 = (visit ask.1).run ask.2) :
    (source.compute other address formula).run walk =
      (source.compute visit address formula).run walk := by
  rw [source.run_compute, source.run_compute, Inquiry.walk_congr agree]

def Walk.Remembers (walk later : Walk) : Prop :=
  ∀ ⦃address : Address⦄ ⦃outcome : Outcome Value⦄,
    walk.progress[address]? = some (.settled outcome) →
      later.progress[address]? = some (.settled outcome)

namespace Walk

theorem Remembers.trans {walk between later : Walk} (first : walk.Remembers between)
    (second : between.Remembers later) : walk.Remembers later :=
  fun _ _ known => second (first known)

theorem Remembers.refl (walk : Walk) : walk.Remembers walk :=
  fun _ _ known => known

theorem remembers_of_progress_eq {walk later : Walk} (same : later.progress = walk.progress) :
    walk.Remembers later := by
  intro address outcome known
  rw [same, known]

theorem remembers_of_grows {source : Source} {walk later : Walk}
    (grows : source.Grows walk later) : walk.Remembers later :=
  fun _ _ known => grows.keeps known

theorem remembers_enter {walk : Walk} {entered : Address}
    (unknown : walk.progress[entered]? = none) : walk.Remembers (walk.enter entered) := by
  intro address outcome known
  rw [progress_enter, if_neg, known]
  rintro rfl
  cases unknown.symm.trans known

theorem remembers_leave {walk : Walk} {left : Address}
    (entered : walk.progress[left]? = some .pending) (outcome : Outcome Value) :
    walk.Remembers (walk.leave left outcome) := by
  intro address remembered known
  rw [progress_leave, if_neg, known]
  rintro rfl
  cases entered.symm.trans known

end Walk

inductive Moment where
  /-- A visit begins. -/
  | call (room : Nat) (path : List Address) (address : Address) (memory : Walk)
  /-- A visit ends. -/
  | finish (memory : Walk)

def Moment.memory : Moment → Walk
  | .call _ _ _ memory => memory
  | .finish memory => memory

/-- Moments in their order, between a memory before and one after them: no result is lost from one
moment to the next. -/
inductive Timeline : Walk → List Moment → Walk → Prop
  | nil {walk after : Walk} (kept : walk.Remembers after) : Timeline walk [] after
  | cons {walk after : Walk} {moment : Moment} {moments : List Moment}
      (kept : walk.Remembers moment.memory) (rest : Timeline moment.memory moments after) :
      Timeline walk (moment :: moments) after

namespace Timeline

variable {walk between after : Walk} {first second moments : List Moment}

theorem of_remembers (kept : walk.Remembers between) (rest : Timeline between moments after) :
    Timeline walk moments after := by
  cases rest with
  | nil keptRest => exact .nil (kept.trans keptRest)
  | cons keptRest rest => exact .cons (kept.trans keptRest) rest

theorem append (front : Timeline walk first between) (back : Timeline between second after) :
    Timeline walk (first ++ second) after := by
  induction front with
  | nil kept => exact back.of_remembers kept
  | cons kept rest ih => exact .cons kept (ih back)

theorem remembers (timeline : Timeline walk moments after) : walk.Remembers after := by
  induction timeline with
  | nil kept => exact kept
  | cons kept rest ih => exact kept.trans ih

theorem remembers_moment (timeline : Timeline walk moments after) :
    ∀ moment ∈ moments, walk.Remembers moment.memory ∧ moment.memory.Remembers after := by
  induction timeline with
  | nil kept => exact List.forall_mem_nil _
  | cons kept rest ih =>
      refine List.forall_mem_cons.2 ⟨⟨kept, rest.remembers⟩, ?_⟩
      exact fun later member => ⟨kept.trans (ih later member).1, (ih later member).2⟩

theorem pairwise (timeline : Timeline walk moments after) :
    moments.Pairwise fun earlier later => earlier.memory.Remembers later.memory := by
  induction timeline with
  | nil kept => exact .nil
  | cons kept rest ih => exact .cons (fun later member => (rest.remembers_moment later member).1) ih

end Timeline

namespace Source

def formulaToCompute? (source : Source) (room : Nat) (path : List Address) (address : Address)
    (walk : Walk) : Option String :=
  match walk.progress[address]? with
  | some _ => none
  | none =>
      if address ∈ path ∨ room = 0 then none else (source.grid.get? address).filter isFormula

/-- The moments of a visit: its beginning, those of all visits that its formula asks for, and its
end. -/
def moments (source : Source) (room : Nat) (path : List Address) (address : Address)
    (walk : Walk) : List Moment :=
  let inside :=
    match room with
    | 0 => []
    | roomBelow + 1 =>
        match source.formulaToCompute? room path address walk with
        | none => []
        | some formula =>
            ((source.resolution formula).asks (source.visit roomBelow (address :: path))
              (walk.enter address)).flatMap fun ask =>
                source.moments roomBelow (address :: path) ask.1 ask.2
  .call room path address walk ::
    (inside ++ [.finish ((source.visit room path address).run walk).2])

/-- The moments of all visits when cells are visited one after the other, each as the start of its
own path. -/
def history (source : Source) : List Address → Walk → List Moment
  | [], _ => []
  | address :: rest, walk =>
      source.moments source.options.maxDepth [] address { walk with depthLimited := false } ++
        source.history rest (source.visitRoot address walk).2

variable {source : Source}

theorem formulaToCompute?_eq_some_iff {room : Nat} {path : List Address} {address : Address}
    {walk : Walk} {formula : String} :
    source.formulaToCompute? room path address walk = some formula ↔
      walk.progress[address]? = none ∧ address ∉ path ∧ room ≠ 0 ∧
        source.FormulaAt address formula := by
  unfold formulaToCompute?
  split
  · rename_i known
    rw [known]
    exact iff_of_false nofun nofun
  · rename_i unknown
    rw [ite_eq_iff, Option.filter_eq_some_iff, not_or]
    simp [unknown, FormulaAt, and_assoc]

theorem moments_cases (source : Source) (room : Nat) (path : List Address) (address : Address)
    (walk : Walk) :
    source.formulaToCompute? room path address walk = none ∧
        source.moments room path address walk =
          [.call room path address walk, .finish ((source.visit room path address).run walk).2] ∨
      ∃ roomBelow formula, room = roomBelow + 1 ∧
        source.formulaToCompute? room path address walk = some formula ∧
        source.moments room path address walk =
          .call room path address walk ::
            ((((source.resolution formula).asks (source.visit roomBelow (address :: path))
                (walk.enter address)).flatMap fun ask =>
                  source.moments roomBelow (address :: path) ask.1 ask.2) ++
              [.finish ((source.visit room path address).run walk).2]) := by
  cases computes : source.formulaToCompute? room path address walk with
  | none =>
      refine .inl ⟨rfl, ?_⟩
      cases room with
      | zero => rfl
      | succ roomBelow =>
          rw [moments, computes]
          rfl
  | some formula =>
      obtain ⟨-, -, space, -⟩ := formulaToCompute?_eq_some_iff.1 computes
      obtain ⟨roomBelow, rfl⟩ := Nat.exists_eq_succ_of_ne_zero space
      exact .inr ⟨roomBelow, formula, rfl, rfl, by rw [moments, computes]⟩

def isComputation (source : Source) : Moment → Bool
  | .call room path address memory =>
      (source.formulaToCompute? room path address memory).isSome
  | .finish _ => false

theorem computed_visit_of_none {room : Nat} {path : List Address} {address : Address} {walk : Walk}
    (ends : source.formulaToCompute? room path address walk = none) :
    ((source.visit room path address).run walk).2.computed = walk.computed := by
  have visited := source.visited room path address walk
  generalize (source.visit room path address).run walk = found at visited ⊢
  cases visited with
  | settled known => rfl
  | pending known => rfl
  | circular unknown onPath => rfl
  | tooLong unknown offPath => rfl
  | missing unknown offPath absent => rfl
  | literal unknown offPath present plain => rfl
  | @formula room text outcome after unknown offPath present computed =>
      have computes := formulaToCompute?_eq_some_iff.2
        ⟨unknown, offPath, Nat.succ_ne_zero room, present⟩
      cases ends.symm.trans computes

theorem computed_asks {α : Type} {visit : Address → Walking Value}
    {events : Address → Walk → List Moment}
    (each : ∀ asked walk, ((visit asked).run walk).2.computed =
      walk.computed + (events asked walk).countP source.isComputation)
    (inquiry : Inquiry α) (walk : Walk) :
    ((inquiry.walk visit).run walk).2.computed = walk.computed +
      ((inquiry.asks visit walk).flatMap fun ask => events ask.1 ask.2).countP
        source.isComputation := by
  induction inquiry generalizing walk with
  | done outcome => rfl
  | ask asked next ih =>
      have first := each asked walk
      rw [Inquiry.asks, List.flatMap_cons, List.countP_append, Inquiry.walk, Walking.run_bind,
        ← Nat.add_assoc, ← first]
      rcases (visit asked).run walk with ⟨outcome, between⟩
      cases outcome with
      | error error => rfl
      | ok value => exact ih value between

/-- The moments of a visit miss no computation: the formulas that were computed are counted by the
walk itself, and there are as many moments at which a computation begins. -/
theorem computed_moments (source : Source) (room : Nat) (path : List Address) (address : Address)
    (walk : Walk) :
    ((source.visit room path address).run walk).2.computed =
      walk.computed + (source.moments room path address walk).countP source.isComputation := by
  induction room using Nat.strongRecOn generalizing path address walk with
  | ind room ih =>
      rcases source.moments_cases room path address walk with
        ⟨ends, listed⟩ | ⟨roomBelow, formula, rfl, computes, listed⟩
      · rw [listed, computed_visit_of_none ends]
        simp [isComputation, ends]
      · obtain ⟨unknown, offPath, -, present⟩ := formulaToCompute?_eq_some_iff.1 computes
        have inside := source.computed_asks (ih roomBelow (Nat.lt_succ_self _) (address :: path))
          (source.resolution formula) (walk.enter address)
        rw [← source.memory_compute _ address] at inside
        rcases computed : (source.compute (source.visit roomBelow (address :: path)) address
          formula).run (walk.enter address) with ⟨outcome, after⟩
        rw [computed] at inside
        have begins :
            source.isComputation (.call (roomBelow + 1) path address walk) = true := by
          rw [isComputation, computes]
          rfl
        have ends : [Moment.finish (after.leave address outcome)].countP source.isComputation = 0 :=
          rfl
        have counted : (after.leave address outcome).computed = after.computed + 1 := rfl
        have entered : (walk.enter address).computed = walk.computed := rfl
        rw [listed, (Visited.formula unknown offPath present computed).run_eq,
          List.countP_cons_of_pos begins, List.countP_append, ends, counted, inside, entered,
          Nat.add_zero, Nat.add_assoc]

theorem computed_history (source : Source) (calls : List Address) (walk : Walk) :
    ((source.visitRoots calls).run walk).2.computed =
      walk.computed + (source.history calls walk).countP source.isComputation := by
  induction calls generalizing walk with
  | nil => rfl
  | cons address rest ih =>
      have first := source.computed_moments source.options.maxDepth [] address
        { walk with depthLimited := false }
      rw [run_visitRoots_cons, history, List.countP_append, ← Nat.add_assoc]
      exact (ih (source.visitRoot address walk).2).trans (congrArg (· + _) first)

theorem grows_visit (source : Source) (room : Nat) (path : List Address) (address : Address)
    (walk : Walk) :
    source.Grows walk ((source.visit room path address).run walk).2 :=
  (source.visits_visit room path address walk).grows

theorem grows_of_mem_asks {α : Type} {visit : Address → Walking Value}
    (grows : ∀ asked walk, source.Grows walk ((visit asked).run walk).2) {inquiry : Inquiry α}
    {walk : Walk} : ∀ ask ∈ inquiry.asks visit walk, source.Grows walk ask.2 := by
  induction inquiry generalizing walk with
  | done outcome => exact List.forall_mem_nil _
  | ask asked next ih =>
      rw [Inquiry.asks, List.forall_mem_cons]
      refine ⟨grows_of_progress_eq rfl, ?_⟩
      have first := grows asked walk
      rcases found : (visit asked).run walk with ⟨outcome, between⟩
      rw [found] at first
      cases outcome with
      | error error => exact List.forall_mem_nil _
      | ok value => exact fun ask member => first.trans (ih value ask member)

/-- The memory where a visit begins: the cells that are being computed are those on the path, each
once, and there is room for as many more as the limit leaves. -/
structure Tracks (source : Source) (room : Nat) (path : List Address) (walk : Walk) : Prop where
  pending : ∀ cell, walk.progress[cell]? = some .pending ↔ cell ∈ path
  once : path.Nodup
  formulas : ∀ passed ∈ path, ∃ text, source.FormulaAt passed text
  measured : path.length + room = source.options.maxDepth

namespace Tracks

variable {room : Nat} {path : List Address} {walk : Walk}

theorem root (free : ∀ cell : Address, walk.progress[cell]? ≠ some .pending) :
    source.Tracks source.options.maxDepth [] walk where
  pending cell := iff_of_false (free cell) List.not_mem_nil
  once := List.nodup_nil
  formulas := List.forall_mem_nil _
  measured := Nat.zero_add _

theorem grows {after : Walk} (tracks : source.Tracks room path walk)
    (grows : source.Grows walk after) : source.Tracks room path after where
  pending cell :=
    ⟨fun known => (tracks.pending cell).1 (grows.pending known),
      fun member => grows.keeps ((tracks.pending cell).2 member)⟩
  once := tracks.once
  formulas := tracks.formulas
  measured := tracks.measured

theorem enter {address : Address} {text : String}
    (tracks : source.Tracks (room + 1) path walk) (offPath : address ∉ path)
    (present : source.FormulaAt address text) :
    source.Tracks room (address :: path) (walk.enter address) where
  pending cell := by
    rw [Walk.progress_enter, List.mem_cons]
    by_cases same : address = cell
    · rw [if_pos same]
      exact iff_of_true rfl (.inl same.symm)
    · rw [if_neg same, tracks.pending]
      exact ⟨.inr, fun member => member.resolve_left (Ne.symm same)⟩
  once := List.nodup_cons.2 ⟨offPath, tracks.once⟩
  formulas := List.forall_mem_cons.2 ⟨⟨text, present⟩, tracks.formulas⟩
  measured := by
    rw [List.length_cons, ← tracks.measured, Nat.add_right_comm, Nat.add_assoc]

/-- A cell of which nothing is known is not on the path, so no circle is noticed by looking at the
path. -/
theorem offPath {address : Address} (tracks : source.Tracks room path walk)
    (unknown : walk.progress[address]? = none) : address ∉ path := by
  intro onPath
  cases unknown.symm.trans ((tracks.pending address).2 onPath)

theorem length_le (tracks : source.Tracks room path walk) :
    path.length ≤ source.options.maxDepth :=
  Nat.le.intro tracks.measured

end Tracks

/-- Where the memory at the beginning of a visit tracks its path, so does the memory at the
beginning of every visit that it leads to. -/
theorem tracks_of_mem_moments {room : Nat} {path : List Address} {address : Address} {walk : Walk}
    (tracks : source.Tracks room path walk) {roomThen : Nat} {pathThen : List Address}
    {asked : Address} {memory : Walk}
    (member : .call roomThen pathThen asked memory ∈ source.moments room path address walk) :
    source.Tracks roomThen pathThen memory := by
  induction room using Nat.strongRecOn generalizing path address walk with
  | ind room ih =>
      rcases source.moments_cases room path address walk with
        ⟨-, ends⟩ | ⟨roomBelow, formula, rfl, computes, listed⟩
      · rw [ends, List.mem_cons, List.mem_singleton] at member
        rcases member with same | same
        · cases same
          exact tracks
        · cases same
      · rw [listed, List.mem_cons, List.mem_append, List.mem_flatMap, List.mem_singleton] at member
        rcases member with same | ⟨ask, asks, inside⟩ | same
        · cases same
          exact tracks
        · obtain ⟨unknown, offPath, -, present⟩ := formulaToCompute?_eq_some_iff.1 computes
          have entered := tracks.enter offPath present
          have found := entered.grows (grows_of_mem_asks (source.grows_visit _ _) ask asks)
          exact ih roomBelow (Nat.lt_succ_self _) found inside
        · cases same

theorem timeline_asks {α : Type} {visit : Address → Walking Value}
    {events : Address → Walk → List Moment}
    (each : ∀ asked walk, Timeline walk (events asked walk) ((visit asked).run walk).2)
    (inquiry : Inquiry α) (walk : Walk) :
    Timeline walk ((inquiry.asks visit walk).flatMap fun ask => events ask.1 ask.2)
      ((inquiry.walk visit).run walk).2 := by
  induction inquiry generalizing walk with
  | done outcome => exact .nil (Walk.remembers_of_progress_eq rfl)
  | ask asked next ih =>
      have first := each asked walk
      rw [Inquiry.asks, List.flatMap_cons, Inquiry.walk, Walking.run_bind]
      rcases found : (visit asked).run walk with ⟨outcome, between⟩
      rw [found] at first
      cases outcome with
      | error error => simpa only [List.flatMap_nil, List.append_nil] using first
      | ok value => exact first.append (ih value between)

/-- No result is lost from one moment of a visit to the next: a cell is entered when nothing is
known of it, and it is still being computed when it is left. -/
theorem timeline_moments (room : Nat) (path : List Address) (address : Address) (walk : Walk) :
    Timeline walk (source.moments room path address walk)
      ((source.visit room path address).run walk).2 := by
  induction room using Nat.strongRecOn generalizing path address walk with
  | ind room ih =>
      rcases source.moments_cases room path address walk with
        ⟨-, ends⟩ | ⟨roomBelow, formula, rfl, computes, listed⟩
      · have kept := Walk.remembers_of_grows (source.grows_visit room path address walk)
        rw [ends]
        exact .cons (.refl _) (.cons kept (.nil (.refl _)))
      · obtain ⟨unknown, offPath, -, present⟩ := formulaToCompute?_eq_some_iff.1 computes
        have inside := timeline_asks (ih roomBelow (Nat.lt_succ_self _) (address :: path))
          (source.resolution formula) (walk.enter address)
        obtain ⟨draws, answers⟩ := answers_compute
          (source.visits_visit roomBelow (address :: path)) address formula (walk.enter address)
        have grows := answers.grows
        rw [← source.memory_compute _ address] at inside
        rcases computed : (source.compute (source.visit roomBelow (address :: path)) address
          formula).run (walk.enter address) with ⟨outcome, after⟩
        rw [computed] at inside grows
        have left : Timeline after [.finish (after.leave address outcome)]
            (after.leave address outcome) :=
          .cons (Walk.remembers_leave (grows.keeps (walk.progress_enter_self address)) outcome)
            (.nil (.refl _))
        rw [listed, (Visited.formula unknown offPath present computed).run_eq]
        exact .cons (.refl _) ((inside.of_remembers (Walk.remembers_enter unknown)).append left)

theorem timeline_history (calls : List Address) (walk : Walk) :
    Timeline walk (source.history calls walk) ((source.visitRoots calls).run walk).2 := by
  induction calls generalizing walk with
  | nil => exact .nil (.refl walk)
  | cons address rest ih =>
      have first := source.timeline_moments source.options.maxDepth [] address
        { walk with depthLimited := false }
      have clearedBefore : walk.Remembers { walk with depthLimited := false } :=
        Walk.remembers_of_progress_eq rfl
      have clearedAfter : Walk.Remembers ((source.visit source.options.maxDepth [] address).run
          { walk with depthLimited := false }).2 (source.visitRoot address walk).2 :=
        Walk.remembers_of_progress_eq rfl
      rw [history, visitRoots, List.mapM_cons]
      exact (first.of_remembers clearedBefore).append
        ((ih (source.visitRoot address walk).2).of_remembers clearedAfter)

theorem tracks_of_mem_history {calls : List Address} {walk : Walk}
    (free : ∀ cell : Address, walk.progress[cell]? ≠ some .pending) {room : Nat}
    {path : List Address} {address : Address} {memory : Walk}
    (member : .call room path address memory ∈ source.history calls walk) :
    source.Tracks room path memory := by
  induction calls generalizing walk with
  | nil => exact absurd member List.not_mem_nil
  | cons first rest ih =>
      rw [history, List.mem_append] at member
      rcases member with inside | later
      · have tracks : source.Tracks source.options.maxDepth []
            { walk with depthLimited := false } := .root free
        exact tracks_of_mem_moments tracks inside
      · exact ih (fun cell known => free cell ((source.grows_visitRoot first walk).pending known))
          later

/-- What holds of the memory when cells are visited one after the other, whichever and however
often. Where a visit begins, the cells that are being computed are those on the path, all of them
formula cells and no more than the limit allows, so looking at the path never finds a circle that
the memory does not show. A result stays from the moment on at which it is remembered. And when all
the visits are over, no cell is being computed, no chain is marked as too long, and what is
remembered is for formula cells only and never that a chain was too long. -/
theorem memory_invariant (source : Source) (calls : List Address) :
    (∀ room path address memory,
        .call room path address memory ∈ source.history calls Walk.start →
          source.Tracks room path memory ∧ path.length ≤ source.options.maxDepth ∧
            (memory.progress[address]? = none → address ∉ path)) ∧
      (source.history calls Walk.start).Pairwise
        (fun earlier later => earlier.memory.Remembers later.memory) ∧
      let walk := ((source.visitRoots calls).run Walk.start).2
      (∀ moment ∈ source.history calls Walk.start, moment.memory.Remembers walk) ∧
        walk.depthLimited = false ∧
        ∀ (cell : Address) (progress : Progress), walk.progress[cell]? = some progress →
          (∃ text, source.FormulaAt cell text) ∧
            ∃ outcome, progress = .settled outcome ∧ ¬ TooLong outcome := by
  have timeline := source.timeline_history calls Walk.start
  obtain ⟨-, ⟨ready, -⟩, grows⟩ := source.consistency.carries_visitRoots calls
  refine ⟨?_, timeline.pairwise, fun moment member => (timeline.remembers_moment moment member).2,
    ready.flag, ?_⟩
  · intro room path address memory member
    have tracks : source.Tracks room path memory := by
      refine tracks_of_mem_history (fun cell known => ?_) member
      cases (Walk.progress_start cell).symm.trans known
    exact ⟨tracks, tracks.length_le, tracks.offPath⟩
  · intro cell progress known
    obtain ⟨present, outcome, rfl⟩ := grows.settled_of_start known
    exact ⟨present, outcome, rfl, ready.sound known⟩

example : (chainSheet.history [⟨0, 1⟩] Walk.start).map (fun
      | .call room path address _ => some (room, path, address)
      | .finish _ => none) =
    [some (2, [], ⟨0, 1⟩), some (1, [⟨0, 1⟩], ⟨0, 2⟩), some (0, [⟨0, 2⟩, ⟨0, 1⟩], ⟨0, 3⟩),
      none, none, none] := by
  decide +kernel

end Source

end Spreadsheet.Sheet

import Spreadsheet.Proofs.Sheet.Recursion
import Spreadsheet.Proofs.Sheet.References

/-!
The limit on chains. Whether a chain is too long depends on where the path started, so such a
failure is never remembered: the flag of a walk is set when the outcome of a visit is one, and then
each cell on the way back is left without a result. A cell that fails in this way is the start of a
chain that really is longer than the limit.

The main statement says that the limit is judged for each cell by itself: the result of a cell is
that without a limit, or it is the failure, and then there is a chain of as many different cells.
-/

set_option autoImplicit false

namespace Spreadsheet.Sheet

def TooLong {α : Type} (outcome : Outcome α) : Prop :=
  ∃ named limit, outcome = .error (.reference (.chainTooLong named limit))

theorem not_tooLong_ok {α : Type} (result : α) : ¬ TooLong (.ok result : Outcome α) := by
  rintro ⟨named, limit, same⟩
  cases same

theorem not_tooLong_error {α : Type} {error : FormulaError}
    (other : ∀ named limit, error ≠ .reference (.chainTooLong named limit)) :
    ¬ TooLong (.error error : Outcome α) := by
  rintro ⟨named, limit, same⟩
  cases same
  exact other named limit rfl

theorem not_tooLong_of_settled {α : Type} {Holds : α → Prop} {outcome : Outcome α}
    (settled : Inquiry.Settled Holds outcome) : ¬ TooLong outcome := by
  rintro ⟨named, limit, rfl⟩
  cases settled.1 _ rfl

theorem Inquiry.Follows.orTooLong {Needs : Address → Address → Prop}
    {Right : Address → Outcome Value → Prop} {address : Address} {inquiry : Inquiry Value}
    (follows : inquiry.Follows Needs Right address) :
    inquiry.Follows Needs (fun address outcome => TooLong outcome ∨ Right address outcome)
      address := by
  induction follows with
  | done right => exact .done (.inr right)
  | ask needs fails continues ih =>
      refine .ask needs ?_ ?_
      · intro error failed
        exact failed.imp id (fails error)
      · intro value found
        exact ih value (found.resolve_left (not_tooLong_ok value))

/-- No remembered result depends on where a path started. -/
def Walk.Sound (walk : Walk) : Prop :=
  ∀ ⦃address : Address⦄ ⦃outcome : Outcome Value⦄,
    walk.progress[address]? = some (.settled outcome) → ¬ TooLong outcome

theorem Walk.sound_start : Walk.start.Sound := by
  intro address outcome known
  rw [Walk.progress_start] at known
  cases known

theorem Walk.Sound.enter {walk : Walk} (sound : walk.Sound) (entered : Address) :
    (walk.enter entered).Sound := by
  intro address outcome known
  rw [Walk.progress_enter] at known
  split at known
  · cases known
  · exact sound known

/-- No chain has been too long so far: neither the flag nor a remembered result says so. -/
structure Walk.Clear (walk : Walk) : Prop where
  flag : walk.depthLimited = false
  sound : walk.Sound

theorem Walk.Clear.enter {walk : Walk} (clear : walk.Clear) (entered : Address) :
    (walk.enter entered).Clear where
  flag := clear.flag
  sound := clear.sound.enter entered

theorem Walk.Clear.flag_iff {walk : Walk} {outcome : Outcome Value} (clear : walk.Clear)
    (short : ¬ TooLong outcome) : walk.depthLimited = true ↔ TooLong outcome := by
  rw [clear.flag]
  exact iff_of_false Bool.false_ne_true short

theorem Walk.Sound.leave {walk : Walk} (sound : walk.Sound) (left : Address)
    {outcome : Outcome Value} (flag : walk.depthLimited = true ↔ TooLong outcome) :
    (walk.leave left outcome).Sound := by
  intro address found known
  rw [Walk.progress_leave] at known
  split at known
  · split at known
    · cases known
    · rename_i kept
      cases known
      intro tooLong
      have limited := flag.2 tooLong
      obtain ⟨named, limit, rfl⟩ := tooLong
      exact kept (by rw [limited]; rfl)
  · exact sound known

namespace Source

variable {source : Source}

theorem yields_notTooLong {draws : Draws} {address : Address} {formula : String}
    (present : source.FormulaAt address formula) :
    (source.drawnInquiry draws address formula).Yields (source.RefersTo address)
      (fun _ _ => True) (fun outcome => ¬ TooLong outcome) :=
  (yields_inquiry address fun _ asks => ⟨formula, present, asks.mentions⟩).mono fun _ =>
    not_tooLong_of_settled

mutual

/-- From a clear flag and a sound memory, a visit sets the flag exactly when its outcome is a chain
that is too long, and never remembers such an outcome. -/
theorem Visits.flag_iff {room : Nat} {path : List Address} {address : Address} {walk after : Walk}
    {outcome : Outcome Value} (clear : walk.Clear) :
    source.Visits room path address walk outcome after →
      (after.depthLimited = true ↔ TooLong outcome) ∧ after.Sound
  | .settled known => ⟨clear.flag_iff (clear.sound known), clear.sound⟩
  | .pending _ => ⟨clear.flag_iff (not_tooLong_error nofun), clear.sound⟩
  | .circular _ _ => ⟨clear.flag_iff (not_tooLong_error nofun), clear.sound⟩
  | .tooLong _ _ => ⟨iff_of_true rfl ⟨_, _, rfl⟩, clear.sound⟩
  | .missing _ _ _ => ⟨clear.flag_iff (not_tooLong_error nofun), clear.sound⟩
  | .literal _ _ _ _ => ⟨clear.flag_iff (not_tooLong_ok _), clear.sound⟩
  | .formula _ _ present answers => by
      obtain ⟨flag, kept⟩ :=
        Answers.flag_iff (clear.enter address) (yields_notTooLong present) answers
      exact ⟨flag, kept.leave address flag⟩

theorem Answers.flag_iff {room : Nat} {path : List Address} {inquiry : Inquiry Value}
    {walk after : Walk} {outcome : Outcome Value} {Allowed : Address → Prop} (clear : walk.Clear)
    (yields : inquiry.Yields Allowed (fun _ _ => True) (fun outcome => ¬ TooLong outcome)) :
    source.Answers room path inquiry walk outcome after →
      (after.depthLimited = true ↔ TooLong outcome) ∧ after.Sound
  | .done outcome => by
      cases yields with
      | done short => exact ⟨clear.flag_iff short, clear.sound⟩
  | .failed visits => Visits.flag_iff clear visits
  | .answered visits answers => by
      obtain ⟨flag, kept⟩ := Visits.flag_iff clear visits
      have still : Walk.Clear _ := ⟨Bool.eq_false_iff.2 (mt flag.1 (not_tooLong_ok _)), kept⟩
      cases yields with
      | ask allowed following =>
          exact Answers.flag_iff still (following _ trivial) answers

end

/-- A chain of references between different formula cells, none of them on the path, that ends at a
cell after as many references as there was room for. -/
inductive Chain (source : Source) : Nat → List Address → Address → Prop
  | last {path : List Address} {address : Address} (offPath : address ∉ path) :
      Chain source 0 path address
  | step {room : Nat} {path : List Address} {address next : Address} (offPath : address ∉ path)
      (refers : source.RefersTo address next) (rest : Chain source room (address :: path) next) :
      Chain source (room + 1) path address

theorem Chain.exists_list {room : Nat} {path : List Address} {address : Address}
    (chain : source.Chain room path address) :
    ∃ rest, rest.length = room ∧ (∀ passed ∈ address :: rest, passed ∉ path) ∧
      (address :: rest).Nodup ∧ List.IsChain source.RefersTo (address :: rest) := by
  induction chain with
  | last offPath =>
      refine ⟨[], rfl, ?_, List.pairwise_singleton _ _, .singleton _⟩
      intro passed member
      rw [List.mem_singleton.1 member]
      exact offPath
  | @step room path address next offPath refers chain ih =>
      obtain ⟨rest, length, off, once, linked⟩ := ih
      refine ⟨next :: rest, congrArg Nat.succ length, ?_, ?_, .cons_cons refers linked⟩
      · intro passed member
        rcases List.mem_cons.1 member with same | later
        · rw [same]
          exact offPath
        · exact fun earlier => off passed later (List.mem_cons_of_mem _ earlier)
      · refine List.nodup_cons.2 ⟨fun again => ?_, once⟩
        exact off address again List.mem_cons_self

theorem Chain.length_le {room : Nat} {path : List Address} {address : Address}
    (chain : source.Chain room path address) (once : path.Nodup)
    (formulas : ∀ passed ∈ path, ∃ text, source.FormulaAt passed text) :
    path.length + room ≤ source.formulaCells.length := by
  induction chain with
  | last offPath => exact length_le_formulaCells once formulas
  | @step room path address next offPath refers chain ih =>
      have bounded := ih (List.nodup_cons.2 ⟨offPath, once⟩) ?_
      · rw [List.length_cons] at bounded
        omega
      · intro passed member
        rcases List.mem_cons.1 member with same | earlier
        · obtain ⟨text, present, -⟩ := refers
          rw [same]
          exact ⟨text, present⟩
        · exact formulas passed earlier

mutual

/-- A visit whose outcome is a chain that is too long has found such a chain. -/
theorem Visits.chain {room : Nat} {path : List Address} {address : Address} {walk after : Walk}
    {outcome : Outcome Value} (clear : walk.Clear) (long : TooLong outcome) :
    source.Visits room path address walk outcome after → source.Chain room path address
  | .settled known => absurd long (clear.sound known)
  | .pending _ => absurd long (not_tooLong_error nofun)
  | .circular _ _ => absurd long (not_tooLong_error nofun)
  | .tooLong _ offPath => .last offPath
  | .missing _ _ _ => absurd long (not_tooLong_error nofun)
  | .literal _ _ _ _ => absurd long (not_tooLong_ok _)
  | .formula _ offPath present answers => by
      obtain ⟨next, refers, chain⟩ :=
        Answers.chain (clear.enter address) long (yields_notTooLong present) answers
      exact .step offPath refers chain

theorem Answers.chain {room : Nat} {path : List Address} {inquiry : Inquiry Value}
    {walk after : Walk} {outcome : Outcome Value} {head : Address} (clear : walk.Clear)
    (long : TooLong outcome)
    (yields : inquiry.Yields (source.RefersTo head) (fun _ _ => True)
      (fun outcome => ¬ TooLong outcome)) :
    source.Answers room path inquiry walk outcome after →
      ∃ next, source.RefersTo head next ∧ source.Chain room path next
  | .done outcome => by
      cases yields with
      | done short => exact absurd long short
  | .failed visits => by
      cases yields with
      | ask refers following => exact ⟨_, refers, Visits.chain clear long visits⟩
  | .answered visits answers => by
      obtain ⟨flag, kept⟩ := visits.flag_iff clear
      have still : Walk.Clear _ := ⟨Bool.eq_false_iff.2 (mt flag.1 (not_tooLong_ok _)), kept⟩
      cases yields with
      | ask refers following =>
          exact Answers.chain still long (following _ trivial) answers

end

def chains (source : Source) : Account source where
  Keeps walk := walk.Sound
  Right _ address outcome := TooLong outcome → source.Chain source.options.maxDepth [] address
  start := Walk.sound_start
  lasts _ := id
  visits address walk sound := by
    obtain ⟨after, visits, same⟩ := source.visits_visitRoot address walk
    rw [same]
    have clear : Walk.Clear { walk with depthLimited := false } := ⟨rfl, sound⟩
    exact ⟨fun long => visits.chain clear long, (visits.flag_iff clear).2⟩

def limited (source : Source) (calm : source.callsRandom = false) : Judgement source where
  Needs := source.Demands
  Right address outcome := TooLong outcome ∨ source.ComesTo address outcome
  circular circle := .inr (comesTo_of_circular (circular_of_demands circle) ⟨_, rfl⟩)
  chainTooLong address _ _ _ := .inl ⟨address, source.options.maxDepth, rfl⟩
  missing absent := .inr (comesTo_of_resultOf (resultOf_missing absent))
  literal present plain := .inr (comesTo_of_resultOf (resultOf_literal present plain))
  formula present draws := drawnInquiry_eq calm present draws ▸
    (continues_inquiry present).follows_inquiry.orTooLong

def withDepth (source : Source) (depth : Nat) : Source :=
  { source with options := { source.options with maxDepth := depth } }

theorem approximation_withDepth (source : Source) (depth round : Nat) :
    (source.withDepth depth).approximation round = source.approximation round := by
  induction round with
  | zero => rfl
  | succ round ih =>
      show (source.withDepth depth).resultOf _ = source.resultOf _
      rw [ih]
      rfl

theorem ComesTo.of_withDepth {depth : Nat} {address : Address} {outcome : Outcome Value}
    (comes : (source.withDepth depth).ComesTo address outcome) :
    source.ComesTo address outcome :=
  comes.of_approximation_eq fun round => congrFun (source.approximation_withDepth depth round) _

/-- The limit on chains is judged for each cell by itself. A result that is not a chain that is too
long is the result under any limit that no chain can exceed, up to the cell at which a circular
reference is noticed. A chain that is too long is there: as many different cells as the limit
allows, each with a reference to the next, and one more. So a cell from which all chains are within
the limit has the result that it has without. No formula may call a random function. -/
theorem depth_limit_judged_per_cell (source : Source) (calm : source.callsRandom = false)
    (address : Address) (outcome : Outcome Value)
    (evaluated : source.outcome? address = some outcome) :
    (¬ TooLong outcome → ∀ depth, source.formulaCells.length < depth →
        ∃ unlimited, (source.withDepth depth).outcome? address = some unlimited ∧
          SameUpToCircle outcome unlimited) ∧
      (TooLong outcome → ∃ chain, chain.length = source.options.maxDepth ∧
        (address :: chain).Nodup ∧ List.IsChain source.RefersTo (address :: chain)) ∧
      ((∀ chain, (address :: chain).Nodup → List.IsChain source.RefersTo (address :: chain) →
          (address :: chain).length ≤ source.options.maxDepth) →
        ∀ depth, source.formulaCells.length < depth →
          ∃ unlimited, (source.withDepth depth).outcome? address = some unlimited ∧
            SameUpToCircle outcome unlimited) := by
  obtain ⟨⟨text, present⟩, linked⟩ := source.chains.right_of_outcome evaluated
  have same (short : ¬ TooLong outcome) (depth : Nat)
      (enough : source.formulaCells.length < depth) :
      ∃ unlimited, (source.withDepth depth).outcome? address = some unlimited ∧
        SameUpToCircle outcome unlimited := by
    have comes := ((source.limited calm).right_of_outcome evaluated).resolve_left short
    let unlimitedly : Judgement (source.withDepth depth) :=
      (source.withDepth depth).limit ⟨calm, enough⟩
    obtain ⟨unlimited, found⟩ := unlimitedly.evaluated present
    have again : (source.withDepth depth).ComesTo address unlimited :=
      unlimitedly.right_of_outcome found
    exact ⟨unlimited, found, comes.sameUpToCircle again.of_withDepth⟩
  have long (tooLong : TooLong outcome) : ∃ chain, chain.length = source.options.maxDepth ∧
      (address :: chain).Nodup ∧ List.IsChain source.RefersTo (address :: chain) := by
    obtain ⟨chain, length, -, once, refers⟩ := (linked tooLong).exists_list
    exact ⟨chain, length, once, refers⟩
  refine ⟨same, long, fun within => same fun tooLong => ?_⟩
  obtain ⟨chain, length, once, refers⟩ := long tooLong
  have bounded := within chain once refers
  rw [List.length_cons, length] at bounded
  omega

/-- A chain of three formula cells that may have two, and a literal at its end. -/
def chainSheet : Source where
  grid := { rows := [["=B1", "=C1", "=D1", "5"]] }
  tableId := "chain"
  options := { maxDepth := 2, maxRangeCells := 10 }
  draws _ _ := .lowest

theorem depth_limit_judged_per_cell_chainSheet :
    chainSheet.callsRandom = false ∧
    (chainSheet.outcome? ⟨0, 0⟩ = some (.error (.reference (.chainTooLong ⟨0, 2⟩ 2))) ∧
      ∃ chain : List Address, chain.length = 2 ∧ (⟨0, 0⟩ :: chain).Nodup ∧
        List.IsChain chainSheet.RefersTo (⟨0, 0⟩ :: chain)) ∧
    (chainSheet.outcome? ⟨0, 2⟩ = some (.ok (.int 5)) ∧
      (∃ unlimited, (chainSheet.withDepth 4).outcome? ⟨0, 2⟩ = some unlimited ∧
        SameUpToCircle (.ok (.int 5)) unlimited) ∧
      (∀ chain, (⟨0, 2⟩ :: chain).Nodup → List.IsChain chainSheet.RefersTo (⟨0, 2⟩ :: chain) →
        (⟨0, 2⟩ :: chain).length ≤ 2)) ∧
    ∃ unlimited, (chainSheet.withDepth 5).outcome? ⟨0, 2⟩ = some unlimited ∧
      SameUpToCircle (.ok (.int 5)) unlimited := by
  have failed : chainSheet.outcome? ⟨0, 0⟩ =
      some (.error (.reference (.chainTooLong ⟨0, 2⟩ 2))) := by decide +kernel
  have found : chainSheet.outcome? ⟨0, 2⟩ = some (.ok (.int 5)) := by decide +kernel
  have calm : chainSheet.callsRandom = false := by decide +kernel
  obtain ⟨-, long, -⟩ := depth_limit_judged_per_cell chainSheet calm _ _ failed
  obtain ⟨same, -, within⟩ := depth_limit_judged_per_cell chainSheet calm _ _ found
  have next_column {address referred : Address} (refers : chainSheet.RefersTo address referred) :
      referred.column = address.column + 1 ∧ referred.column ≤ 3 := by
    refine RefersTo.of_mentioned? (fun address referred =>
      referred.column = address.column + 1 ∧ referred.column ≤ 3) ?_ refers
    decide +kernel
  have short (chain : List Address) (once : (⟨0, 2⟩ :: chain).Nodup)
      (linked : List.IsChain chainSheet.RefersTo (⟨0, 2⟩ :: chain)) :
      (⟨0, 2⟩ :: chain).length ≤ 2 := by
    rcases chain with _ | ⟨next, _ | ⟨last, rest⟩⟩
    · exact Nat.le_succ 1
    · exact Nat.le_refl 2
    · obtain ⟨toNext, later⟩ := List.isChain_cons_cons.1 linked
      obtain ⟨toLast, -⟩ := List.isChain_cons_cons.1 later
      have reached := next_column toNext
      have beyond := next_column toLast
      dsimp only at reached
      omega
  exact ⟨calm, ⟨failed, long ⟨_, _, rfl⟩⟩, ⟨found, same (not_tooLong_ok _) 4 (by decide), short⟩,
    within short 5 (by decide)⟩

end Source

end Spreadsheet.Sheet

import Spreadsheet.Proofs.Sheet.Approximation
import Spreadsheet.Proofs.Sheet.Calm
import Spreadsheet.Proofs.Sheet.Results

/-!
Walks that remember nothing. The recursion computes a cell from the cells that it refers to, each of
them anew, and takes a cell for circular when it is on the path from the root. It ends because there
are only so many formula cells that can be on the path.

The main statement is that a memory makes no difference, as long as chains of any length are
allowed and no formula calls a random function: whichever cells were visited before, in whichever
order and how often, the result of a visit is that of the recursion, up to the cell at which a
circular reference is noticed.
-/

set_option autoImplicit false

namespace Spreadsheet.Sheet

namespace Source

variable {source : Source}

theorem length_unvisited_lt {cells path : List Address} {address : Address}
    (member : address ∈ cells) (offPath : address ∉ path) :
    (cells.filter (· ∉ address :: path)).length < (cells.filter (· ∉ path)).length := by
  have remaining : cells.filter (· ∉ address :: path) =
      (cells.filter (· ∉ path)).filter (· ≠ address) := by
    rw [List.filter_filter]
    congr 1
    funext cell
    simp only [List.mem_cons, not_or, Bool.decide_and]
  rw [remaining, List.length_filter_lt_length_iff_exists]
  refine ⟨address, List.mem_filter.2 ⟨member, ?_⟩, ?_⟩
  · exact decide_eq_true offPath
  · simp

/-- The result of a cell that is reached over `path`, without any memory. -/
def recursion (source : Source) (path : List Address) (address : Address) : Outcome Value :=
  if address ∈ path then .error (.circular address)
  else
    match _ : source.grid.get? address with
    | none => .error (.reference (.missingCell address))
    | some text =>
        if _ : isFormula text = true then
          source.outcomeOf (fun asked => source.recursion (address :: path) asked) address text
        else .ok (Value.ofLiteral text)
termination_by (source.formulaCells.filter (· ∉ path)).length
decreasing_by exact length_unvisited_lt (mem_formulaCells ⟨by assumption, by assumption⟩) ‹_›

theorem right_answer {judgement : Judgement source} {look : Address → Outcome Value}
    {address : Address} {inquiry : Inquiry Value}
    (right : ∀ asked, judgement.Needs address asked → judgement.Right asked (look asked))
    (follows : inquiry.Follows judgement.Needs judgement.Right address) :
    judgement.Right address (inquiry.answer look) := by
  induction follows with
  | done result => exact result
  | @ask asked next needs fails continues ih =>
      have answered := right asked needs
      cases found : look asked with
      | error error =>
          rw [Inquiry.answer_ask_error found]
          exact fails error (found ▸ answered)
      | ok value =>
          rw [Inquiry.answer_ask_ok found]
          exact ih value (found ▸ answered)

theorem recursion_of_notMem {path : List Address} {address : Address} (offPath : address ∉ path) :
    source.recursion path address =
      source.resultOf (source.recursion (address :: path)) address := by
  rw [recursion, if_neg offPath, resultOf]
  split
  · rename_i absent
    rw [absent]
  · rename_i text present
    rw [present]
    rfl

/-- The recursion finds right results as well, over any path of cells that need the cell. -/
theorem right_recursion (judgement : Judgement source) (path : List Address) (address : Address)
    (needed : ∀ passed ∈ path, Relation.TransGen judgement.Needs passed address) :
    judgement.Right address (source.recursion path address) := by
  induction path, address using Source.recursion.induct source with
  | case1 path address onPath =>
      rw [recursion, if_pos onPath]
      exact judgement.circular (needed address onPath)
  | case2 path address offPath absent =>
      rw [recursion_of_notMem offPath, resultOf_missing absent]
      exact judgement.missing absent
  | case3 path address offPath text present formula ih =>
      rw [recursion_of_notMem offPath, resultOf_formula ⟨present, formula⟩]
      refine right_answer (fun asked needs => ih asked ?_)
        (judgement.formula ⟨present, formula⟩ fun _ => .lowest)
      intro passed member
      rcases List.mem_cons.1 member with same | earlier
      · rw [same]
        exact .single needs
      · exact (needed passed earlier).tail needs
  | case4 path address offPath text present plain =>
      have literal := Bool.eq_false_iff.2 plain
      rw [recursion_of_notMem offPath, resultOf_literal present literal]
      exact judgement.literal present literal

/-- No formula calls a random function, and no chain of formula cells is too long. -/
structure Steady (source : Source) : Prop where
  calm : source.callsRandom = false
  enough : source.formulaCells.length < source.options.maxDepth

def limit (source : Source) (steady : source.Steady) : Judgement source where
  Needs := source.Demands
  Right := source.ComesTo
  circular circle := comesTo_of_circular (circular_of_demands circle) ⟨_, rfl⟩
  chainTooLong := by
    intro path address once formulas long
    have bounded := length_le_formulaCells once formulas
    have enough := steady.enough
    omega
  missing absent := comesTo_of_resultOf (resultOf_missing absent)
  literal present plain := comesTo_of_resultOf (resultOf_literal present plain)
  formula present draws := drawnInquiry_eq steady.calm present draws ▸
    (continues_inquiry present).follows_inquiry

/-- Visiting cells with one memory for all of them, in any order and as often as one likes, gives
the results of the recursion without memory. -/
theorem visitRoots_eq_recursion (source : Source) (calm : source.callsRandom = false)
    (enough : source.formulaCells.length < source.options.maxDepth) (calls : List Address) :
    List.Forall₂ SameUpToCircle ((source.visitRoots calls).run Walk.start).1
      (calls.map (source.recursion [])) := by
  have steady : source.Steady := ⟨calm, enough⟩
  have visited := (source.limit steady).right_visitRoots calls
  rw [List.forall₂_map_right_iff]
  refine (visited.imp fun address outcome comes => ?_).flip
  have again : source.ComesTo address (source.recursion [] address) := by
    refine right_recursion (source.limit steady) [] address ?_
    intro passed member
    cases member
  exact comes.sameUpToCircle again

def circleSheet : Source where
  grid := { rows := [["=B1+1", "=A1", "7"], ["=C1*A1"]] }
  tableId := "circle"
  options := { maxDepth := 10, maxRangeCells := 10 }
  draws _ _ := .lowest

theorem visitRoots_circleSheet :
    circleSheet.callsRandom = false ∧
      circleSheet.formulaCells.length < circleSheet.options.maxDepth ∧
      List.Forall₂ SameUpToCircle
        ((circleSheet.visitRoots [⟨1, 0⟩, ⟨0, 1⟩, ⟨0, 0⟩, ⟨1, 0⟩, ⟨5, 5⟩]).run Walk.start).1
        ([⟨1, 0⟩, ⟨0, 1⟩, ⟨0, 0⟩, ⟨1, 0⟩, ⟨5, 5⟩].map (circleSheet.recursion [])) :=
  ⟨by decide +kernel, by decide,
    visitRoots_eq_recursion circleSheet (by decide +kernel) (by decide) _⟩

end Source

end Spreadsheet.Sheet

import Spreadsheet.Proofs.Sheet.References
import Spreadsheet.Proofs.Sheet.Results

/-!
Internal errors do not occur in a sheet. Whatever its cells hold, whatever is drawn and whatever the
limits are, four things fit together: the program of a formula finds its operands on the stack, its
references are replaced before it is run, it is run at a cell, and each function counts its
arguments, spread out from blocks, before its rule looks for them.

The main statement says so of the results of an evaluation, and of each part by itself.
-/

set_option autoImplicit false

namespace Spreadsheet.Sheet

theorem filledBy_of_resolveWith {resolver : Reference → Walking Operand} {item found : Item}
    {walk after : Walk}
    (resolved : (Item.resolveWith resolver item).run walk = (.ok found, after)) :
    item.FilledBy found := by
  cases item with
  | reference target =>
      rw [Item.resolveWith, Walking.run_bind] at resolved
      split at resolved
      · cases resolved
        exact .reference target _
      · cases resolved
  | literal value => cases resolved; exact .same rfl
  | resolved operand => cases resolved; exact .same rfl
  | name given => cases resolved; exact .same rfl
  | operator operator => cases resolved; exact .same rfl
  | call function count => cases resolved; exact .same rfl

theorem filled_of_resolveWith {resolver : Reference → Walking Operand} {program filled : Program}
    {walk after : Walk} (resolved : (program.resolveWith resolver).run walk = (.ok filled, after)) :
    List.Forall₂ Item.FilledBy program filled := by
  induction program generalizing walk filled after with
  | nil =>
      cases resolved
      exact .nil
  | cons item rest ih =>
      rw [Program.resolveWith, List.mapM_cons, Walking.run_bind] at resolved
      split at resolved
      · rename_i found between first
        rw [Walking.run_bind] at resolved
        split at resolved
        · rename_i others last following
          cases resolved
          exact .cons (filledBy_of_resolveWith first) (ih following)
        · cases resolved
      · cases resolved

/-- The median of no values would be an internal error. -/
theorem median_nil (context : Context) :
    Function.median context [] = .error (.function .noValues) := by
  simp [Function.median, Function.ofNumbers, Function.numbers, Number.median, Number.sorted, pure,
    Except.pure, bind, Except.bind]

namespace Source

def soundness (source : Source) : Judgement source where
  Needs _ _ := True
  Right _ outcome := FailsOnly (fun error => error.isInternal = false) outcome
  circular _ := failsOnly_error rfl
  chainTooLong _ _ _ _ := failsOnly_error rfl
  missing _ := failsOnly_error rfl
  literal _ _ := failsOnly_ok _
  formula := by
    intro address formula present draws
    have yields : (source.drawnInquiry draws address formula).Yields (fun _ => True)
        (fun _ value => FailsOnly (fun error => error.isInternal = false) (.ok value)) _ :=
      yields_inquiry address fun _ _ => trivial
    refine yields.follows ?_ ?_
    · intro asked error _ fails
      exact failsOnly_error (fails error rfl)
    · intro outcome settled
      exact settled.1.mono fun _ own => own.not_isInternal

/-- No result of a sheet is an internal error, and no part of its evaluation can be the cause of
one: a program that was read leaves one operand and misses none, resolving leaves no reference, and
a function whose count of arguments is accepted reads no argument that was not given. In particular
the rule of the median is not reached without values. -/
theorem internal_errors_excluded (source : Source) :
    (∀ address error, source.outcome? address = some (.error error) → error.isInternal = false) ∧
      (∀ formula program, Program.parse formula = .ok program → program.heightAfter 0 = some 1) ∧
      (∀ (resolver : Reference → Walking Operand) program filled walk after,
        (Program.resolveWith resolver program).run walk = (.ok filled, after) →
        Program.heightAfter 0 filled = Program.heightAfter 0 program ∧
          Program.references filled = []) ∧
      (∀ name function context arguments, Registry.standard.get? name = some function →
        function.checkCount arguments.length = .ok () →
        FailsOnly (fun error => error.isInternal = false) (function.rule context arguments)) ∧
      ∀ name function (arguments : List Value), Registry.standard.get? name = some function →
        function.rule = Function.median → function.checkCount arguments.length = .ok () →
        arguments ≠ [] := by
  have covered (name : String) (function : Function) (context : Context) (arguments : List Value)
      (found : Registry.standard.get? name = some function)
      (accepted : function.checkCount arguments.length = .ok ()) :
      FailsOnly (fun error => error.isInternal = false) (function.rule context arguments) :=
    (Registry.failsOnly_rule found context accepted).mono fun _ computed =>
      computed.isOwn.not_isInternal
  refine ⟨?results, fun _ _ => Program.heightAfter_of_parse, ?substituted, covered, ?median⟩
  case results =>
    intro address error found
    exact source.soundness.right_of_outcome found error rfl
  case substituted =>
    intro resolver program filled walk after resolved
    have fills := filled_of_resolveWith resolved
    refine ⟨Program.heightAfter_filled fills 0, ?_⟩
    exact List.filterMap_eq_nil_iff.2 (Program.reference?_of_filled fills)
  case median =>
    rintro name function arguments found rule accepted rfl
    have fails := covered name function Context.bare [] found accepted
    rw [rule, median_nil] at fails
    have plain := fails _ rfl
    cases plain

/-- A median without values, one over a block, a choice with too few arguments and a cell's own
row. -/
def medianSheet : Source where
  grid := { rows := [["=MEDIAN()", "=MEDIAN(A2:B2)", "=IF(1,2)"], ["4", "=ROW+A1"]] }
  tableId := "median"
  options := { maxDepth := 10, maxRangeCells := 10 }
  draws _ _ := .lowest

theorem internal_errors_excluded_medianSheet :
    (∃ error, medianSheet.outcome? ⟨0, 1⟩ = some (.error error) ∧ error.isInternal = false) ∧
      (∃ program, Program.parse "=MEDIAN(A2:B2,-A1^2)" = .ok program ∧
        program.heightAfter 0 = some 1) ∧
      (∃ filled after,
        (Program.resolveWith (medianSheet.resolveReference (medianSheet.visit 10 []))
          [.reference (.cell ⟨1, 0⟩), .operator (.sign .negate)]).run Walk.start =
            (.ok filled, after) ∧ Program.references filled = []) ∧
      ∃ function, Registry.standard.get? "MEDIAN" = some function ∧
        function.checkCount [Value.int 4].length = .ok () ∧
        FailsOnly (fun error => error.isInternal = false)
          (function.rule Context.bare [.int 4]) ∧
        function.rule = Function.median ∧ [Value.int 4] ≠ [] := by
  obtain ⟨results, programs, substituted, rules, medians⟩ := internal_errors_excluded medianSheet
  refine ⟨?_, ?_, ?_, ?_⟩
  · have failed : medianSheet.outcome? ⟨0, 1⟩ =
        some (.error (.function (.argumentCount "MEDIAN" "at least 1" 0))) := by decide +kernel
    exact ⟨_, failed, results _ _ failed⟩
  · have readable : (Program.parse "=MEDIAN(A2:B2,-A1^2)").toBool = true := by decide +kernel
    cases read : Program.parse "=MEDIAN(A2:B2,-A1^2)" with
    | error error =>
        rw [read] at readable
        cases readable
    | ok program => exact ⟨program, rfl, programs _ _ read⟩
  · have first : ((Program.resolveWith (medianSheet.resolveReference (medianSheet.visit 10 []))
        [.reference (.cell ⟨1, 0⟩), .operator (.sign .negate)]).run Walk.start).1 =
          .ok [.resolved (.value (.int 4)), .operator (.sign .negate)] := by decide +kernel
    exact ⟨_, _, Prod.ext first rfl, (substituted _ _ _ _ _ (Prod.ext first rfl)).2⟩
  · have found : Registry.standard.get? "MEDIAN" =
        some ⟨"MEDIAN", 1, none, Function.median⟩ := rfl
    exact ⟨_, found, rfl, rules _ _ Context.bare _ found rfl, rfl, medians _ _ _ found rfl rfl⟩

end Source

end Spreadsheet.Sheet

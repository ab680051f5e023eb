import Spreadsheet.Proofs.Failure.Evaluation

/-!
Programs without chance. Two functions use the draws that are still to come and no others do, so a
program that calls neither of them runs in one way under all draws.

A context is still when all its draws are one: then nothing changes when draws are used up. What is
said of programs without chance need be proved for such contexts only.
-/

set_option autoImplicit false

namespace Spreadsheet

namespace Context

def Still (context : Context) : Prop :=
  ∀ count, context.skip count = context

theorem still_drawing (context : Context) (draw : Draw) :
    (context.drawing fun _ => draw).Still :=
  fun _ => rfl

end Context

def Function.isRandom (function : Function) : Bool :=
  ["RAND_INT", "RAND_FLOAT"].contains function.name

/-- Does the item call a random function, by whichever name? -/
def Item.callsRandom : Item → Bool
  | .call called _ => (Registry.standard.get? called).any Function.isRandom
  | _ => false

theorem Function.rule_drawing (context : Context) (draws : Draws) (arguments : List Value) :
    ∀ function ∈ Registry.builtins, function.isRandom = false →
      function.rule (context.drawing draws) arguments = function.rule context arguments := by
  simp only [Registry.builtins, List.forall_mem_cons, List.not_mem_nil, false_implies,
    implies_true, and_true]
  and_intros
  all_goals first
    | exact fun _ => rfl
    | exact fun calm => absurd calm (by decide)

theorem callFunction_drawing {name : String} {count : Nat}
    (calm : (Item.call name count).callsRandom = false) (context : Context) (draws : Draws)
    (arguments : List Value) :
    callFunction (context.drawing draws) name arguments = callFunction context name arguments := by
  unfold callFunction
  split
  · rename_i function found
    have member := Registry.mem_builtins_of_get? found
    rw [Item.callsRandom, found, Option.any_some] at calm
    rw [Function.call, Function.call, Function.rule_drawing context draws arguments _ member calm]
  · rfl

namespace Program

def callsRandom (program : Program) : Bool :=
  program.any Item.callsRandom

theorem callsRandom_eq_false_iff {program : Program} :
    program.callsRandom = false ↔ ∀ item ∈ program, item.callsRandom = false := by
  simp only [callsRandom, List.any_eq_false, Bool.not_eq_true]

theorem callsRandom_append (first second : Program) :
    callsRandom (first ++ second) = (first.callsRandom || second.callsRandom) :=
  List.any_append

theorem callsRandom_resolved (resolver : Reference → Operand) (program : Program) :
    (program.resolved resolver).callsRandom = program.callsRandom := by
  rw [callsRandom, callsRandom, resolved, List.any_map]
  congr 1
  funext item
  cases item <;> rfl

theorem run_congr {context other : Context} {program : Program}
    (same : ∀ item ∈ program, ∀ count stack,
      step (context.skip count) stack item = step (other.skip count) stack item)
    (stack : List Operand) : run context stack program = run other stack program := by
  induction program generalizing context other stack with
  | nil => rfl
  | cons item rest ih =>
      have first := same item List.mem_cons_self 0 stack
      rw [Context.skip_zero, Context.skip_zero] at first
      rw [run, run, first]
      cases step other stack item with
      | error error => rfl
      | ok next =>
          refine ih (fun later member count stack => ?_) next
          rw [Context.skip_skip, Context.skip_skip]
          exact same later (List.mem_cons_of_mem _ member) _ stack

theorem evaluate_congr {context other : Context} {program : Program}
    (same : ∀ item ∈ program, ∀ count stack,
      step (context.skip count) stack item = step (other.skip count) stack item) :
    program.evaluate context = program.evaluate other := by
  rw [evaluate, evaluate, run_congr same]

theorem step_drawing {item : Item} (calm : item.callsRandom = false) (context : Context)
    (draws : Draws) (stack : List Operand) :
    step (context.drawing draws) stack item = step context stack item := by
  cases item with
  | literal value => rfl
  | resolved operand => rfl
  | reference target => rfl
  | name given => rfl
  | operator operator => rfl
  | call function count => simp only [step, applyCall, callFunction_drawing calm]

/-- A program without chance has one value under all draws. -/
theorem evaluate_drawing {program : Program} (calm : program.callsRandom = false)
    (context : Context) (draws : Draws) :
    program.evaluate (context.drawing draws) = program.evaluate context := by
  refine evaluate_congr fun item member count stack => ?_
  have one := callsRandom_eq_false_iff.1 calm item member
  exact (step_drawing one context _ stack).trans (step_drawing one context _ stack).symm

end Program

end Spreadsheet

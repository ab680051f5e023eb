import Spreadsheet.Proofs.Chance
import Spreadsheet.Proofs.Grammar.Acceptance

/-!
Joining formulas. Between two formulas an ampersand makes one formula of them, without parentheses:
nothing is looser than an ampersand, and a chain of them in the second formula becomes part of a
longer chain. That chain groups in another way than the two formulas did, but joining texts does not
depend on grouping.

The main statement is that the joined formula stands for the two values, one after the other, and
has a value only if both have, whatever the references stand for.
-/

set_option autoImplicit false

namespace Spreadsheet

namespace Expression

mutual

def substitute (resolver : Reference → Operand) : Expression → Expression
  | .literal value => .literal value
  | .reference target => .resolved (resolver target)
  | .resolved operand => .resolved operand
  | .name given => .name given
  | .sign operator operand => .sign operator (operand.substitute resolver)
  | .binary operator left right =>
      .binary operator (left.substitute resolver) (right.substitute resolver)
  | .call function arguments => .call function (substituteAll resolver arguments)

def substituteAll (resolver : Reference → Operand) : List Expression → List Expression
  | [] => []
  | first :: rest => first.substitute resolver :: substituteAll resolver rest

end

theorem length_substituteAll (resolver : Reference → Operand) (arguments : List Expression) :
    (substituteAll resolver arguments).length = arguments.length := by
  induction arguments with
  | nil => rfl
  | cons first rest ih => rw [substituteAll, List.length_cons, List.length_cons, ih]

theorem resolved_append (resolver : Reference → Operand) (first second : Program) :
    Program.resolved resolver (first ++ second) =
      Program.resolved resolver first ++ Program.resolved resolver second :=
  List.map_append

mutual

theorem postorder_substitute (resolver : Reference → Operand) :
    (expression : Expression) →
      (expression.substitute resolver).postorder = expression.postorder.resolved resolver
  | .literal value => rfl
  | .reference target => rfl
  | .resolved operand => rfl
  | .name given => rfl
  | .sign operator operand => by
      rw [substitute, postorder, postorder, resolved_append, postorder_substitute resolver operand]
      rfl
  | .binary operator left right => by
      rw [substitute, postorder, postorder, resolved_append, resolved_append,
        postorder_substitute resolver left, postorder_substitute resolver right]
      rfl
  | .call function arguments => by
      rw [substitute, postorder, postorder, resolved_append,
        postorderAll_substituteAll resolver arguments, length_substituteAll]
      rfl

theorem postorderAll_substituteAll (resolver : Reference → Operand) :
    (arguments : List Expression) →
      postorderAll (substituteAll resolver arguments) =
        Program.resolved resolver (postorderAll arguments)
  | [] => rfl
  | first :: rest => by
      rw [substituteAll, postorderAll, postorderAll, resolved_append,
        postorder_substitute resolver first, postorderAll_substituteAll resolver rest]

end

theorem evaluate_resolved_postorder (resolver : Reference → Operand) (context : Context)
    (expression : Expression) :
    (expression.postorder.resolved resolver).evaluate context =
      (expression.substitute resolver).evaluate context := by
  have pushed := run_postorder context [] [] (expression.substitute resolver)
  rw [List.append_nil] at pushed
  rw [← postorder_substitute, Program.evaluate, pushed, evaluate]
  cases (expression.substitute resolver).operand context <;> rfl

theorem evaluate_concat_eq_ok_iff {context : Context} (still : context.Still)
    {left right : Expression} {value : Value} :
    (binary .concat left right).evaluate context = .ok value ↔
      ∃ first second, left.evaluate context = .ok first ∧ right.evaluate context = .ok second ∧
        value = first.concat second := by
  simp only [evaluate, operand, Value.applyBinary, Outcome.bind_eq_ok_iff, still left.size]
  constructor
  · rintro ⟨_, ⟨leftOperand, leftFound, rightOperand, rightFound, first, leftScalar, second,
      rightScalar, _, ⟨⟩, ⟨⟩⟩, ⟨⟩⟩
    exact ⟨first, second, ⟨leftOperand, leftFound, leftScalar⟩,
      ⟨rightOperand, rightFound, rightScalar⟩, rfl⟩
  · rintro ⟨first, second, ⟨leftOperand, leftFound, leftScalar⟩,
      ⟨rightOperand, rightFound, rightScalar⟩, rfl⟩
    exact ⟨.value (first.concat second), ⟨leftOperand, leftFound, rightOperand, rightFound, first,
      leftScalar, second, rightScalar, _, rfl, rfl⟩, rfl⟩

/-- The whole stands for the first value and then the second, and has a value only if both have,
whatever the references stand for; and it calls no random functions unless one of them does. -/
structure Joins (whole first second : Expression) : Prop where
  calm : first.postorder.callsRandom = false → second.postorder.callsRandom = false →
    whole.postorder.callsRandom = false
  value_iff : ∀ (resolver : Reference → Operand) {context : Context} (value : Value),
    context.Still → ((whole.substitute resolver).evaluate context = .ok value ↔
      ∃ left right, (first.substitute resolver).evaluate context = .ok left ∧
        (second.substitute resolver).evaluate context = .ok right ∧ value = left.concat right)

theorem joins_concat (first second : Expression) :
    Joins (.binary .concat first second) first second where
  calm calmFirst calmSecond := by
    rw [postorder, Program.callsRandom_append, Program.callsRandom_append, calmFirst, calmSecond]
    rfl
  value_iff resolver context value still := by
    rw [substitute]
    exact evaluate_concat_eq_ok_iff still

theorem Joins.concat {whole first second : Expression} (joins : Joins whole first second)
    (last : Expression) :
    Joins (.binary .concat whole last) first (.binary .concat second last) where
  calm calmFirst calmSecond := by
    simp only [postorder, Program.callsRandom_append, Bool.or_eq_false_iff] at calmSecond ⊢
    exact ⟨⟨joins.calm calmFirst calmSecond.1.1, calmSecond.1.2⟩, calmSecond.2⟩
  value_iff resolver context value still := by
    simp only [substitute, evaluate_concat_eq_ok_iff still]
    constructor
    · rintro ⟨front, back, inFront, atEnd, rfl⟩
      obtain ⟨left, right, ofFirst, ofSecond, rfl⟩ :=
        (joins.value_iff resolver front still).1 inFront
      exact ⟨left, right.concat back, ofFirst, ⟨right, back, ofSecond, atEnd, rfl⟩,
        Value.concat_assoc _ _ _⟩
    · rintro ⟨left, _, ofFirst, ⟨right, back, ofSecond, atEnd, rfl⟩, rfl⟩
      exact ⟨left.concat right, back,
        (joins.value_iff resolver _ still).2 ⟨left, right, ofFirst, ofSecond, rfl⟩, atEnd,
        (Value.concat_assoc _ _ _).symm⟩

end Expression

open Expression (Joins joins_concat)

/-- Two formulas with an ampersand between them are one formula, which joins their values. The
induction is on the second formula: its chain of ampersands is taken over link by link, and anything
tighter than an ampersand is the last operand of the new chain. -/
theorem Derives.joined {phrase : Phrase} {before inside : List Token} {first second : Expression}
    (front : Derives .concat before first) (back : Derives phrase inside second) :
    ∃ whole, Derives .concat (before ++ .operator .concat :: inside) whole ∧
      Joins whole first second := by
  have direct {tokens : List Token} {tree : Expression} {phrase : Phrase}
      (tight : Phrase.sum.level ≤ phrase.level) (derives : Derives phrase tokens tree) :
      ∃ whole, Derives .concat (before ++ .operator .concat :: tokens) whole ∧
        Joins whole first tree :=
    ⟨_, .binary .concat front (.looser tight derives), joins_concat first tree⟩
  induction back with
  | number n => exact direct (by decide) (.number n)
  | text s => exact direct (by decide) (.text s)
  | reference target => exact direct (by decide) (.reference target)
  | name given => exact direct (by decide) (.name given)
  | group inside => exact direct (by decide) (.group inside)
  | call function each => exact direct (by decide) (.call function each)
  | plus operand => exact direct (by decide) (.plus operand)
  | minus operand => exact direct (by decide) (.minus operand)
  | @binary operator start rest left right leftOperand rightOperand leftJoined _ =>
      by_cases chain : operator = .concat
      · subst chain
        obtain ⟨whole, derives, joins⟩ := leftJoined
        refine ⟨.binary .concat whole right, ?_, joins.concat right⟩
        have linked := Derives.binary .concat derives rightOperand
        rw [List.append_assoc] at linked
        exact linked
      · refine direct ?_ (.binary operator leftOperand rightOperand)
        cases operator <;> first | exact absurd rfl chain | decide
  | looser notAbove phrase ih => exact ih

end Spreadsheet

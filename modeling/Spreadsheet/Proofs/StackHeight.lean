import Mathlib.Data.List.Forall2
import Spreadsheet.Proofs.Grammar.Acceptance

/-!
The height of the operand stack. How many operands lie on the stack after a program can be told from
the program alone: each item takes as many as it has operands and pushes one. A program for which
this count never falls short runs without missing an operand, whatever the operands are.

The main statement is that the program of every formula that can be read leaves exactly one operand,
and that filling in what its references stand for changes nothing in this.
-/

set_option autoImplicit false

namespace Spreadsheet

def Item.operandCount : Item → Nat
  | .operator applied => applied.arity
  | .call _ count => count
  | _ => 0

/-- One item in a program, and what it is when references have been replaced by operands. -/
inductive Item.FilledBy : Item → Item → Prop
  | same {item : Item} (plain : item.reference? = none) : FilledBy item item
  | reference (target : Reference) (operand : Operand) :
      FilledBy (.reference target) (.resolved operand)

namespace Program

/-- The height of the stack after a program, unless operands are missing on the way. -/
def heightAfter (height : Nat) : Program → Option Nat
  | [] => some height
  | item :: rest =>
      if item.operandCount ≤ height then heightAfter (height - item.operandCount + 1) rest else none

theorem heightAfter_cons {height : Nat} {item : Item} (rest : Program)
    (enough : item.operandCount ≤ height) :
    heightAfter height (item :: rest) = heightAfter (height - item.operandCount + 1) rest := by
  rw [heightAfter, if_pos enough]

theorem length_of_applyOperator {operator : Operator} {stack next : List Operand}
    (applied : applyOperator operator stack = .ok next) :
    operator.arity ≤ stack.length ∧ next.length = stack.length - operator.arity + 1 := by
  unfold applyOperator at applied
  split at applied
  · simp only [Outcome.bind_eq_ok_iff] at applied
    obtain ⟨value, -, result, -, same⟩ := applied
    cases same
    simp only [Operator.arity, List.length_cons]
    omega
  · simp only [Outcome.bind_eq_ok_iff] at applied
    obtain ⟨left, -, right, -, result, -, same⟩ := applied
    cases same
    simp only [Operator.arity, List.length_cons]
    omega
  · cases applied

theorem length_of_applyCall {context : Context} {function : String} {count : Nat}
    {stack next : List Operand} (applied : applyCall context function count stack = .ok next) :
    count ≤ stack.length ∧ next.length = stack.length - count + 1 := by
  unfold applyCall at applied
  split at applied
  · cases applied
  · rename_i enough
    simp only [Outcome.bind_eq_ok_iff] at applied
    obtain ⟨result, -, same⟩ := applied
    cases same
    refine ⟨Nat.le_of_not_lt enough, ?_⟩
    rw [List.length_cons, List.length_drop]

theorem length_of_step {context : Context} {stack next : List Operand} {item : Item}
    (stepped : step context stack item = .ok next) :
    item.operandCount ≤ stack.length ∧ next.length = stack.length - item.operandCount + 1 := by
  cases item with
  | literal value =>
      cases stepped
      exact ⟨Nat.zero_le _, rfl⟩
  | reference target => cases stepped
  | resolved operand =>
      cases stepped
      exact ⟨Nat.zero_le _, rfl⟩
  | name given =>
      simp only [step, Outcome.bind_eq_ok_iff] at stepped
      obtain ⟨value, -, same⟩ := stepped
      cases same
      exact ⟨Nat.zero_le _, rfl⟩
  | operator operator => exact length_of_applyOperator stepped
  | call function count => exact length_of_applyCall stepped

theorem heightAfter_of_run {context : Context} {stack result : List Operand} {program : Program}
    (ran : run context stack program = .ok result) :
    program.heightAfter stack.length = some result.length := by
  induction program generalizing context stack with
  | nil =>
      cases ran
      rfl
  | cons item rest ih =>
      rw [run] at ran
      split at ran
      · cases ran
      · rename_i next stepped
        obtain ⟨enough, length⟩ := length_of_step stepped
        rw [heightAfter_cons rest enough, ← length]
        exact ih ran

end Program

namespace Expression

mutual

theorem heightAfter_postorder (height : Nat) (rest : Program) : (tree : Expression) →
    Program.heightAfter height (tree.postorder ++ rest) = Program.heightAfter (height + 1) rest
  | .literal value => Program.heightAfter_cons rest (Nat.zero_le height)
  | .reference target => Program.heightAfter_cons rest (Nat.zero_le height)
  | .resolved operand => Program.heightAfter_cons rest (Nat.zero_le height)
  | .name given => Program.heightAfter_cons rest (Nat.zero_le height)
  | .sign operator operand => by
      rw [postorder, List.append_assoc, heightAfter_postorder height _ operand]
      exact Program.heightAfter_cons rest (Nat.le_add_left 1 height)
  | .binary operator left right => by
      rw [postorder, List.append_assoc, List.append_assoc, heightAfter_postorder height _ left,
        heightAfter_postorder _ _ right]
      exact Program.heightAfter_cons rest (Nat.le_add_left 2 height)
  | .call function arguments => by
      have taken : height + arguments.length - arguments.length + 1 = height + 1 := by omega
      rw [postorder, List.append_assoc, heightAfter_postorderAll height _ arguments, ← taken]
      exact Program.heightAfter_cons rest (Nat.le_add_left _ height)

theorem heightAfter_postorderAll (height : Nat) (rest : Program) : (trees : List Expression) →
    Program.heightAfter height (postorderAll trees ++ rest) =
      Program.heightAfter (height + trees.length) rest
  | [] => rfl
  | first :: others => by
      have counted : height + 1 + others.length = height + (first :: others).length := by
        rw [List.length_cons]
        omega
      rw [postorderAll, List.append_assoc, heightAfter_postorder height _ first,
        heightAfter_postorderAll _ _ others, counted]

end

end Expression

namespace Program

/-- The program of a formula leaves one operand and misses none on the way. -/
theorem heightAfter_of_parse {formula : String} {program : Program}
    (read : parse formula = .ok program) : program.heightAfter 0 = some 1 := by
  simp only [parse, Outcome.bind_eq_ok_iff] at read
  obtain ⟨_, -, tokens, -, accepted⟩ := read
  obtain ⟨tree, -, same⟩ := derives_of_ofTokens accepted
  rw [← same, ← List.append_nil tree.postorder]
  exact Expression.heightAfter_postorder 0 [] tree

theorem heightAfter_filled {program filled : Program}
    (fills : List.Forall₂ Item.FilledBy program filled) (height : Nat) :
    filled.heightAfter height = program.heightAfter height := by
  induction fills generalizing height with
  | nil => rfl
  | @cons item found rest others one following ih =>
      have counted : found.operandCount = item.operandCount := by cases one <;> rfl
      rw [heightAfter, heightAfter, counted]
      split
      · exact ih _
      · rfl

theorem reference?_of_filled {program filled : Program}
    (fills : List.Forall₂ Item.FilledBy program filled) :
    ∀ item ∈ filled, item.reference? = none := by
  induction fills with
  | nil =>
      intro item member
      cases member
  | cons one following ih =>
      intro item member
      rcases List.mem_cons.1 member with same | later
      · rw [same]
        cases one with
        | same plain => exact plain
        | reference target operand => rfl
      · exact ih item later

end Program

end Spreadsheet

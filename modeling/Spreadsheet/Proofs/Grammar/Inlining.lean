import Spreadsheet.Proofs.Grammar.Acceptance

/-!
A formula in place of an operand. What has been found so far is never looked at again while tokens
are read: it ends up in front of whatever is found later. So after an operand the reading goes on in
the same way, whichever items the operand has added.

The main statement is that a formula in parentheses can stand where a reference stands, and that the
program changes at that one place only.
-/

set_option autoImplicit false

namespace Spreadsheet.Program

namespace Reading

def onTop (reading : Reading) (below : List Item) : Reading :=
  { reading with found := reading.found ++ below }

theorem release_append (leaves : Operator → Bool) (waiting : List Waiting)
    (found below : List Item) :
    release leaves waiting (found ++ below) =
      ((release leaves waiting found).1, (release leaves waiting found).2 ++ below) := by
  fun_induction release leaves waiting found with
  | case1 operator rest found leaving ih => rw [← ih, release, if_pos leaving, List.cons_append]
  | case2 operator rest found staying => rw [release, if_neg staying]
  | case3 waiting found notOperator => rw [release]; exact notOperator

theorem readOperand_onTop (reading : Reading) (below : List Item) (item : Item) :
    (reading.onTop below).readOperand item = (reading.readOperand item).map (·.onTop below) := by
  obtain ⟨found, waiting, expectsOperand⟩ := reading
  cases expectsOperand <;> rfl

theorem readOpening_onTop (reading : Reading) (below : List Item) (shown : String)
    (opened : Waiting) :
    (reading.onTop below).readOpening shown opened =
      (reading.readOpening shown opened).map (·.onTop below) := by
  obtain ⟨found, waiting, expectsOperand⟩ := reading
  cases expectsOperand <;> rfl

theorem readOperator_onTop (reading : Reading) (below : List Item) (next : BinaryOperator) :
    (reading.onTop below).readOperator next = (reading.readOperator next).map (·.onTop below) := by
  simp only [readOperator, onTop, release_append]
  split
  · cases next.asSign? <;> rfl
  · rfl

theorem readComma_onTop (reading : Reading) (below : List Item) :
    (reading.onTop below).readComma = reading.readComma.map (·.onTop below) := by
  simp only [readComma, onTop, release_append]
  split
  · split <;> rfl
  · generalize release (fun _ => true) reading.waiting reading.found = released
    obtain ⟨waiting, found⟩ := released
    cases waiting with
    | nil => rfl
    | cons top rest => cases top <;> rfl

theorem readClosing_onTop (reading : Reading) (below : List Item) :
    (reading.onTop below).readClosing = reading.readClosing.map (·.onTop below) := by
  simp only [readClosing, onTop, release_append]
  split
  · split <;> rfl
  · generalize release (fun _ => true) reading.waiting reading.found = released
    obtain ⟨waiting, found⟩ := released
    cases waiting with
    | nil => rfl
    | cons top rest => cases top <;> rfl

theorem step_onTop (reading : Reading) (below : List Item) (token : Token) :
    (reading.onTop below).step token = (reading.step token).map (·.onTop below) := by
  cases token with
  | number n => exact reading.readOperand_onTop below _
  | text s => exact reading.readOperand_onTop below _
  | reference target => exact reading.readOperand_onTop below _
  | name given => exact reading.readOperand_onTop below _
  | function name => exact reading.readOpening_onTop below _ _
  | operator next => exact reading.readOperator_onTop below next
  | opening => exact reading.readOpening_onTop below _ _
  | closing => exact reading.readClosing_onTop below
  | comma => exact reading.readComma_onTop below

theorem run_onTop (reading : Reading) (below : List Item) (tokens : List Token) :
    (reading.onTop below).run tokens = (reading.run tokens).map (·.onTop below) := by
  induction tokens generalizing reading with
  | nil => rfl
  | cons token rest ih =>
      rw [run, run, step_onTop]
      cases reading.step token with
      | error error => rfl
      | ok next => exact ih next

theorem finish_onTop (reading : Reading) (below : List Item) :
    (reading.onTop below).finish = reading.finish.map (below.reverse ++ ·) := by
  simp only [finish, onTop, release_append]
  split
  · rfl
  · generalize release (fun _ => true) reading.waiting reading.found = released
    obtain ⟨waiting, found⟩ := released
    cases waiting with
    | nil => exact congrArg Except.ok List.reverse_append
    | cons top rest => rfl

def readToEnd (reading : Reading) (tokens : List Token) : Outcome Program :=
  match reading.run tokens with
  | .error error => .error error
  | .ok last => last.finish

theorem readToEnd_append_of_run {reading next : Reading} {first : List Token}
    (ran : reading.run first = .ok next) (rest : List Token) :
    reading.readToEnd (first ++ rest) = next.readToEnd rest := by
  rw [readToEnd, readToEnd, run_append_of_run ran]

theorem readToEnd_onTop (reading : Reading) (below : List Item) (tokens : List Token) :
    (reading.onTop below).readToEnd tokens =
      (reading.readToEnd tokens).map (below.reverse ++ ·) := by
  rw [readToEnd, readToEnd, run_onTop]
  cases reading.run tokens with
  | error error => rfl
  | ok last => exact last.finish_onTop below

theorem run_of_readToEnd_append {reading : Reading} {first rest : List Token} {program : Program}
    (accepted : reading.readToEnd (first ++ rest) = .ok program) :
    ∃ next, reading.run first = .ok next ∧ next.readToEnd rest = .ok program := by
  rw [readToEnd, run_append] at accepted
  cases ran : reading.run first with
  | error error =>
      rw [ran] at accepted
      cases accepted
  | ok next =>
      rw [ran] at accepted
      exact ⟨next, rfl, accepted⟩

theorem run_reference {found : List Item} {waiting : List Waiting} {expectsOperand : Bool}
    {target : Reference} {next : Reading}
    (ran : run { found, waiting, expectsOperand } [.reference target] = .ok next) :
    expectsOperand = true ∧
      next = { found := .reference target :: found, waiting, expectsOperand := false } := by
  cases expectsOperand with
  | false => cases ran
  | true =>
      cases ran
      exact ⟨rfl, rfl⟩

end Reading

theorem ofTokens_eq_readToEnd {tokens : List Token} (some_token : tokens ≠ []) :
    ofTokens tokens = Reading.start.readToEnd tokens := by
  cases tokens with
  | nil => exact absurd rfl some_token
  | cons token rest => rfl

/-- A formula in parentheses can be read in place of a reference, and in the program its items take
the place of the reference. -/
theorem ofTokens_inlined {before after : List Token} {target : Reference} {program : Program}
    (accepted : ofTokens (before ++ .reference target :: after) = .ok program) :
    ∃ front back, program = front ++ .reference target :: back ∧
      ∀ inside inner, ofTokens inside = .ok inner →
        ofTokens (before ++ .opening :: (inside ++ .closing :: after)) =
          .ok (front ++ inner ++ back) := by
  rw [ofTokens_eq_readToEnd (by simp)] at accepted
  obtain ⟨⟨found, waiting, expectsOperand⟩, opened, following⟩ :=
    Reading.run_of_readToEnd_append accepted
  rw [← List.singleton_append] at following
  obtain ⟨next, referred, remaining⟩ := Reading.run_of_readToEnd_append following
  obtain ⟨rfl, rfl⟩ := Reading.run_reference referred
  let rest : Reading := { found := [], waiting, expectsOperand := false }
  have onReference := rest.readToEnd_onTop (.reference target :: found) after
  cases read : rest.readToEnd after with
  | error error =>
      rw [read] at onReference
      cases onReference.symm.trans remaining
  | ok back =>
      rw [read] at onReference
      cases onReference.symm.trans remaining
      refine ⟨found.reverse, back, by simp, ?_⟩
      intro inside inner acceptedInside
      obtain ⟨tree, derived, same⟩ := derives_of_ofTokens acceptedInside
      have group := Reading.run_group (Reading.readAs_of_derives derived) waiting found
      have onGroup := rest.readToEnd_onTop (tree.postorder.reverse ++ found) after
      rw [read] at onGroup
      have grouped : before ++ .opening :: (inside ++ .closing :: after) =
          before ++ ((.opening :: (inside ++ [.closing])) ++ after) := by simp
      rw [ofTokens_eq_readToEnd (by simp), grouped, Reading.readToEnd_append_of_run opened,
        Reading.readToEnd_append_of_run group]
      refine onGroup.trans (congrArg Except.ok ?_)
      rw [List.reverse_append, List.reverse_reverse, same]

end Spreadsheet.Program

import Spreadsheet.Evaluation
import Spreadsheet.Proofs.LetterCase.Cutting

/-!
Programs in either case. Tokens in capitals are read into the program in capitals, since the reader
never looks at a name. A name is looked up in capitals, so a program in capitals computes what the
program does; only the text of an error repeats a name as it was written.

The main statement puts the two together with the cutting of formulas. Formulas that differ in the
case of letters outside of text constants are both accepted or both refused. When they are accepted,
they have the same references and stand for the same value wherever they are evaluated, or fail in
the same kind.
-/

set_option autoImplicit false

namespace Spreadsheet

open Outcome

def Item.upper : Item → Item
  | .name given => .name (Text.upper given)
  | .call function count => .call (Text.upper function) count
  | item => item

namespace Program

def upper (program : Program) : Program :=
  program.map Item.upper

theorem references_upper (program : Program) : program.upper.references = program.references := by
  have one (item : Item) : item.upper.reference? = item.reference? := by cases item <;> rfl
  rw [references, upper, List.filterMap_map, show Item.reference? ∘ Item.upper = Item.reference?
    from funext one]
  rfl

def Waiting.upper : Waiting → Waiting
  | .arguments function complete => .arguments (Text.upper function) complete
  | waiting => waiting

namespace Reading

def upper (reading : Reading) : Reading :=
  { reading with
    found := reading.found.map Item.upper
    waiting := reading.waiting.map Waiting.upper }

theorem release_upper (leaves : Operator → Bool) (waiting : List Waiting) (found : List Item) :
    release leaves (waiting.map Waiting.upper) (found.map Item.upper) =
      ((release leaves waiting found).1.map Waiting.upper,
        (release leaves waiting found).2.map Item.upper) := by
  fun_induction release leaves waiting found with
  | case1 operator rest found leaving ih =>
      exact (if_pos leaving).trans ih
  | case2 operator rest found staying => exact if_neg staying
  | case3 waiting found notOperator =>
      cases waiting with
      | nil => rfl
      | cons top rest =>
          cases top with
          | operator operator => exact (notOperator operator rest rfl).elim
          | group => rfl
          | arguments function complete => rfl

/-- Which error reports a missing operand depends on what waits, but all are about the writing. -/
theorem kind_missingOperand (waiting : List Waiting) :
    (missingOperand waiting).kind = .writing := by
  unfold missingOperand
  split <;> rfl

theorem readOperand_upper (reading : Reading) (item : Item) :
    AlikeUnder upper (reading.readOperand item) (reading.upper.readOperand item.upper) := by
  obtain ⟨found, waiting, expectsOperand⟩ := reading
  cases expectsOperand with
  | false => exact .error rfl
  | true => exact .ok rfl

theorem readOpening_upper (reading : Reading) (shown shown' : String) (opened : Waiting) :
    AlikeUnder upper (reading.readOpening shown opened)
      (reading.upper.readOpening shown' opened.upper) := by
  obtain ⟨found, waiting, expectsOperand⟩ := reading
  cases expectsOperand with
  | false => exact .error rfl
  | true => exact .ok rfl

theorem readOperator_upper (reading : Reading) (next : BinaryOperator) :
    AlikeUnder upper (reading.readOperator next) (reading.upper.readOperator next) := by
  simp only [readOperator, upper, release_upper]
  split
  · cases next.asSign? with
    | none => exact .error rfl
    | some sign => exact .ok rfl
  · exact .ok rfl

theorem readComma_upper (reading : Reading) :
    AlikeUnder upper reading.readComma reading.upper.readComma := by
  simp only [readComma, upper, release_upper]
  split
  · cases reading.waiting with
    | nil => exact .error rfl
    | cons top rest => cases top <;> exact .error rfl
  · generalize release (fun _ => true) reading.waiting reading.found = released
    obtain ⟨waiting, found⟩ := released
    cases waiting with
    | nil => exact .error rfl
    | cons top rest =>
        cases top with
        | operator operator => exact .error rfl
        | group => exact .error rfl
        | arguments function complete => exact .ok rfl

theorem readClosing_upper (reading : Reading) :
    AlikeUnder upper reading.readClosing reading.upper.readClosing := by
  simp only [readClosing, upper, release_upper]
  split
  · cases reading.waiting with
    | nil => exact .error rfl
    | cons top rest =>
        cases top with
        | operator operator => exact .error rfl
        | group => exact .error rfl
        | arguments function complete =>
            cases complete with
            | zero => exact .ok rfl
            | succ complete => exact .error rfl
  · generalize release (fun _ => true) reading.waiting reading.found = released
    obtain ⟨waiting, found⟩ := released
    cases waiting with
    | nil => exact .error rfl
    | cons top rest =>
        cases top with
        | operator operator => exact .error rfl
        | group => exact .ok rfl
        | arguments function complete => exact .ok rfl

theorem step_upper (reading : Reading) (token : Token) :
    AlikeUnder upper (reading.step token) (reading.upper.step token.upper) := by
  cases token with
  | number n => exact reading.readOperand_upper _
  | text s => exact reading.readOperand_upper _
  | reference target => exact reading.readOperand_upper _
  | name given => exact reading.readOperand_upper _
  | function name => exact reading.readOpening_upper _ _ _
  | operator next => exact reading.readOperator_upper next
  | opening => exact reading.readOpening_upper _ _ _
  | closing => exact reading.readClosing_upper
  | comma => exact reading.readComma_upper

theorem run_cons (reading : Reading) (token : Token) (rest : List Token) :
    reading.run (token :: rest) = reading.step token >>= fun next => next.run rest := by
  rw [run]
  cases reading.step token <;> rfl

theorem run_upper (reading : Reading) (tokens : List Token) :
    AlikeUnder upper (reading.run tokens) (reading.upper.run (tokens.map Token.upper)) := by
  induction tokens generalizing reading with
  | nil => exact .ok rfl
  | cons token rest ih =>
      rw [List.map_cons, run_cons, run_cons]
      exact (step_upper reading token).bind fun next => ih next

theorem finish_upper (reading : Reading) :
    AlikeUnder Program.upper reading.finish reading.upper.finish := by
  simp only [finish, upper, release_upper]
  split
  · exact .error ((kind_missingOperand _).trans (kind_missingOperand _).symm)
  · generalize release (fun _ => true) reading.waiting reading.found = released
    obtain ⟨waiting, found⟩ := released
    cases waiting with
    | nil => exact .ok List.map_reverse.symm
    | cons top rest => exact .error rfl

end Reading

theorem ofTokens_cons (token : Token) (rest : List Token) :
    ofTokens (token :: rest) = Reading.start.run (token :: rest) >>= Reading.finish := by
  rw [ofTokens]
  cases Reading.start.run (token :: rest) <;> rfl

theorem ofTokens_upper (tokens : List Token) :
    AlikeUnder upper (ofTokens tokens) (ofTokens (tokens.map Token.upper)) := by
  cases tokens with
  | nil => exact .error rfl
  | cons token rest =>
      rw [List.map_cons, ofTokens_cons, ofTokens_cons]
      exact (Reading.start.run_upper (token :: rest)).bind Reading.finish_upper

theorem body_upperOutside (formula : String) :
    body (String.ofList (Text.upperOutside false formula.toList)) =
      String.ofList (Text.upperOutside false (body formula).toList) := by
  rw [body, body, String.toList_ofList]
  split
  · rename_i rest same
    obtain ⟨after, starts⟩ := Text.cons_of_upperOutside rfl same
    rw [starts, Text.upperOutside_other (by decide)] at same
    obtain ⟨-, rfl⟩ := List.cons.inj same
    simp only [starts, String.toList_ofList]
  · rename_i noEquals
    split
    · rename_i rest starts
      rw [starts, Text.upperOutside_other (by decide)] at noEquals
      exact (noEquals _ rfl).elim
    · rfl

theorem checkBrackets_upperOutside (source : String) :
    checkBrackets (String.ofList (Text.upperOutside false source.toList)) =
      checkBrackets source := by
  rw [checkBrackets, checkBrackets, String.toList_ofList,
    Text.apply_upperOutside hasAdjacentReferences_upperChars]

/-- A formula in capitals outside of its quotes is accepted when the formula is, and its program is
that of the formula with its names in capitals. -/
theorem parse_upperOutside (formula : String) :
    AlikeUnder upper (parse formula)
      (parse (String.ofList (Text.upperOutside false formula.toList))) := by
  rw [parse, parse, body_upperOutside, checkBrackets_upperOutside]
  refine (AlikeUnder.refl (checkBrackets (body formula))).bind fun _ => ?_
  exact (Token.tokenize_upperOutside (body formula)).bind ofTokens_upper

end Program

theorem Context.alike_currentCell (context : Context) (name other : String) :
    AlikeUnder id (context.currentCell name) (context.currentCell other) := by
  rw [currentCell, currentCell]
  cases context.current with
  | none => exact .error rfl
  | some address => exact .ok rfl

theorem Context.namedValue_upper (context : Context) (given : String) :
    AlikeUnder id (context.namedValue given) (context.namedValue (Text.upper given)) := by
  have cell := context.alike_currentCell given (Text.upper given)
  rw [namedValue, namedValue, Text.upper_upper]
  split
  · exact .ok rfl
  · exact .ok rfl
  · exact .ok rfl
  · exact cell.bind fun _ => .ok rfl
  · exact cell.bind fun _ => .ok rfl
  · exact cell.bind fun _ => .ok rfl
  · exact .ok rfl
  · exact .ok rfl
  · exact .error rfl

theorem Registry.get?_upper (registry : Registry) (name : String) :
    registry.get? (Text.upper name) = registry.get? name := by
  rw [get?, Text.upper_upper]
  rfl

theorem callFunction_upper (context : Context) (name : String) (arguments : List Value) :
    AlikeUnder id (callFunction context name arguments)
      (callFunction context (Text.upper name) arguments) := by
  unfold callFunction
  rw [Registry.get?_upper]
  split
  · exact AlikeUnder.refl _
  · exact .error rfl

namespace Program

theorem step_upper (context : Context) (stack : List Operand) (item : Item) :
    AlikeUnder id (step context stack item) (step context stack item.upper) := by
  cases item with
  | literal value => exact AlikeUnder.refl _
  | reference target => exact AlikeUnder.refl _
  | resolved operand => exact AlikeUnder.refl _
  | name given => exact (context.namedValue_upper given).bind fun _ => .ok rfl
  | operator operator => exact AlikeUnder.refl _
  | call function count =>
      rw [Item.upper, step, step, applyCall, applyCall]
      split
      · exact .error rfl
      · exact (callFunction_upper context function _).bind fun _ => .ok rfl

theorem run_upper (context : Context) (stack : List Operand) (program : Program) :
    AlikeUnder id (run context stack program) (run context stack program.upper) := by
  induction program generalizing context stack with
  | nil => exact .ok rfl
  | cons item rest ih =>
      rw [upper, List.map_cons, ← upper, run_cons, run_cons]
      exact (step_upper context stack item).bind fun next => ih (context.skip 1) next

theorem evaluate_upper (context : Context) (program : Program) :
    AlikeUnder id (program.evaluate context) (program.upper.evaluate context) := by
  have alike := run_upper context [] program
  rw [evaluate, evaluate]
  generalize run context [] program = first at alike ⊢
  generalize run context [] program.upper = second at alike ⊢
  cases alike with
  | error sameKind => exact .error sameKind
  | ok same => exact same ▸ AlikeUnder.refl _

theorem resolveItem_upper (resolver : Reference → Outcome Operand) (item : Item) :
    AlikeUnder Item.upper (item.resolveWith resolver) (item.upper.resolveWith resolver) := by
  cases item with
  | literal value => exact .ok rfl
  | reference target => exact (AlikeUnder.refl (resolver target)).bind fun _ => .ok rfl
  | resolved operand => exact .ok rfl
  | name given => exact .ok rfl
  | operator operator => exact .ok rfl
  | call function count => exact .ok rfl

theorem resolveWith_upper (resolver : Reference → Outcome Operand) (program : Program) :
    AlikeUnder upper (program.resolveWith resolver) (program.upper.resolveWith resolver) := by
  rw [resolveWith, resolveWith]
  induction program with
  | nil => exact .ok rfl
  | cons item rest ih =>
      rw [upper, List.map_cons, ← upper, List.mapM_cons, List.mapM_cons]
      exact (resolveItem_upper resolver item).bind fun _ => ih.bind fun _ => .ok rfl

end Program

/-- The formulas differ in the case of letters outside of text constants and in nothing else. -/
def DifferInCase (formula other : String) : Prop :=
  Text.upperOutside false formula.toList = Text.upperOutside false other.toList

instance (formula other : String) : Decidable (DifferInCase formula other) :=
  inferInstanceAs (Decidable (Text.upperOutside false formula.toList =
    Text.upperOutside false other.toList))

theorem Program.alike_evaluate {program twin : Program} (same : program.upper = twin.upper)
    (resolver : Reference → Outcome Operand) (context : Context) :
    Alike Eq (program.resolveWith resolver >>= evaluate context)
      (twin.resolveWith resolver >>= evaluate context) := by
  have capitals (program : Program) :
      AlikeUnder id (program.resolveWith resolver >>= evaluate context)
        (program.upper.resolveWith resolver >>= evaluate context) :=
    (program.resolveWith_upper resolver).bind (evaluate_upper context)
  have left := capitals program
  rw [same] at left
  refine (left.join (capitals twin)).imp ?_
  rintro value other ⟨common, rfl, equal⟩
  exact equal

/-- Case does not matter outside of text constants. Formulas that differ in nothing else are both
accepted or both refused. When they are accepted, they have the same references in the same order,
and whatever the references stand for and wherever the formulas are evaluated, they have the same
value or fail in the same kind. -/
theorem parse_of_differInCase {formula other : String} (differ : DifferInCase formula other) :
    Alike (fun program twin =>
        program.references = twin.references ∧
          ∀ (resolver : Reference → Outcome Operand) (context : Context),
            Alike Eq (program.resolveWith resolver >>= Program.evaluate context)
              (twin.resolveWith resolver >>= Program.evaluate context))
      (Program.parse formula) (Program.parse other) := by
  have left := Program.parse_upperOutside formula
  rw [show Text.upperOutside false formula.toList = _ from differ] at left
  refine (left.join (Program.parse_upperOutside other)).imp ?_
  rintro program twin ⟨common, rfl, same⟩
  refine ⟨?_, Program.alike_evaluate same⟩
  rw [← program.references_upper, same, twin.references_upper]

def quietFormula : String :=
  "=sum(a1,[b2:c2])&\"Ab\"&num_rows"

def loudFormula : String :=
  "=SUM(A1,[b2:C2])&\"Ab\"&Num_Rows"

theorem parse_of_differInCase_quietFormula :
    DifferInCase quietFormula loudFormula ∧
      ∃ program twin, Program.parse quietFormula = .ok program ∧
        Program.parse loudFormula = .ok twin ∧ program ≠ twin ∧
        program.references = twin.references ∧
        ∀ (resolver : Reference → Outcome Operand) (context : Context),
          Alike Eq (program.resolveWith resolver >>= Program.evaluate context)
            (twin.resolveWith resolver >>= Program.evaluate context) := by
  have differ : DifferInCase quietFormula loudFormula := by decide +kernel
  let items (function name : String) : Program :=
    [.reference (.cell ⟨0, 0⟩), .reference (.range (CellRange.spanning ⟨1, 1⟩ ⟨1, 2⟩)),
      .call function 2, .literal (.text "Ab"), .operator (.binary .concat), .name name,
      .operator (.binary .concat)]
  have quiet : Program.parse quietFormula = .ok (items "sum" "num_rows") := by decide +kernel
  have loud : Program.parse loudFormula = .ok (items "SUM" "Num_Rows") := by decide +kernel
  have alike := parse_of_differInCase differ
  rw [quiet, loud] at alike
  cases alike with
  | ok related => exact ⟨differ, _, _, quiet, loud, by decide +kernel, related⟩

end Spreadsheet

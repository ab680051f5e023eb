import Spreadsheet.Program
import Spreadsheet.Token.Lexer

/-!
From tokens to programs. Tokens are taken one by one; operands go to the program at once, while
operators, groups and argument lists wait until what they apply to is complete. An operator
leaves the waiting stack before a looser one, and before an equally tight one unless that groups
to the right. Signs wait without making anything else leave. The first token that cannot follow
is reported by what stands before it.

The lemmas say how the parts of the waiting stack behave: operators leave from the top only, and
neither groups nor argument lists leave with them.
-/

set_option autoImplicit false

namespace Spreadsheet

namespace Program

/-- What waits until its operands are complete. -/
inductive Waiting where
  | operator (operator : Operator)
  | group
  /-- The arguments of a function, of which some are complete. -/
  | arguments (function : String) (complete : Nat)
deriving DecidableEq

structure Reading where
  /-- The items found so far, the latest first. -/
  found : List Item
  /-- What waits, the innermost first. -/
  waiting : List Waiting
  expectsOperand : Bool
deriving DecidableEq

namespace Reading

def start : Reading :=
  { found := [], waiting := [], expectsOperand := true }

/-- Does a waiting operator come before a binary operator that follows its operand? -/
def goesFirst (next : BinaryOperator) (waiting : Operator) : Bool :=
  next.precedence < waiting.precedence ||
    (waiting.precedence == next.precedence && !next.groupsRight)

def release (leaves : Operator → Bool) : List Waiting → List Item → List Waiting × List Item
  | .operator operator :: rest, found =>
      if leaves operator then release leaves rest (.operator operator :: found)
      else (.operator operator :: rest, found)
  | waiting, found => (waiting, found)

def missingOperand (waiting : List Waiting) : FormulaError :=
  match waiting with
  | .operator operator :: _ => .writing (.missingOperandAfter operator)
  | _ => .writing .missingOperand

def readOperand (reading : Reading) (item : Item) : Outcome Reading :=
  if reading.expectsOperand then
    .ok { reading with found := item :: reading.found, expectsOperand := false }
  else .error (.writing .missingOperator)

def readOpening (reading : Reading) (shown : String) (waiting : Waiting) : Outcome Reading :=
  if reading.expectsOperand then
    .ok { reading with waiting := waiting :: reading.waiting }
  else .error (.writing (.missingOperatorBefore shown))

/-- An operator was read. In place of an operand it can only be a sign. -/
def readOperator (reading : Reading) (next : BinaryOperator) : Outcome Reading :=
  if reading.expectsOperand then
    match next.asSign? with
    | some sign =>
        .ok { reading with waiting := .operator (.sign sign) :: reading.waiting }
    | none => .error (.writing (.missingOperandBefore next))
  else
    let (waiting, found) := release (goesFirst next) reading.waiting reading.found
    .ok { found, waiting := .operator (.binary next) :: waiting, expectsOperand := true }

def readComma (reading : Reading) : Outcome Reading :=
  if reading.expectsOperand then
    match reading.waiting with
    | .arguments _ _ :: _ => .error (.writing .missingArgument)
    | waiting => .error (missingOperand waiting)
  else
    match release (fun _ => true) reading.waiting reading.found with
    | (.arguments function complete :: rest, found) =>
        .ok { found, waiting := .arguments function (complete + 1) :: rest, expectsOperand := true }
    | _ => .error (.writing .unexpectedComma)

/-- A parenthesis was closed. Only an argument list may be empty. -/
def readClosing (reading : Reading) : Outcome Reading :=
  if reading.expectsOperand then
    match reading.waiting with
    | .arguments function 0 :: rest =>
        .ok { found := .call function 0 :: reading.found, waiting := rest, expectsOperand := false }
    | .arguments _ _ :: _ => .error (.writing .missingArgument)
    | .group :: _ => .error (.writing .emptyParentheses)
    | .operator operator :: _ => .error (.writing (.missingOperandAfter operator))
    | [] => .error (.writing .unmatchedClosing)
  else
    match release (fun _ => true) reading.waiting reading.found with
    | (.arguments function complete :: rest, found) =>
        .ok { found := .call function (complete + 1) :: found, waiting := rest,
              expectsOperand := false }
    | (.group :: rest, found) => .ok { found, waiting := rest, expectsOperand := false }
    | _ => .error (.writing .unmatchedClosing)

def step (reading : Reading) : Token → Outcome Reading
  | .number n => reading.readOperand (.literal (.number n))
  | .text s => reading.readOperand (.literal (.text s))
  | .reference target => reading.readOperand (.reference target)
  | .name name => reading.readOperand (.name name)
  | .function name => reading.readOpening name (.arguments name 0)
  | .opening => reading.readOpening "(" .group
  | .closing => reading.readClosing
  | .comma => reading.readComma
  | .operator next => reading.readOperator next

def run (reading : Reading) : List Token → Outcome Reading
  | [] => .ok reading
  | token :: rest =>
      match reading.step token with
      | .error error => .error error
      | .ok next => next.run rest

def finish (reading : Reading) : Outcome Program :=
  if reading.expectsOperand then .error (missingOperand reading.waiting)
  else
    match release (fun _ => true) reading.waiting reading.found with
    | ([], found) => .ok found.reverse
    | _ => .error (.writing .unmatchedOpening)

theorem run_append (reading : Reading) (first second : List Token) :
    reading.run (first ++ second) =
      match reading.run first with
      | .error error => .error error
      | .ok next => next.run second := by
  induction first generalizing reading with
  | nil => rfl
  | cons token rest ih =>
      simp only [List.cons_append, run]
      cases reading.step token with
      | error error => rfl
      | ok next => exact ih next

theorem release_eq (leaves : Operator → Bool) (waiting : List Waiting) (found : List Item) :
    ∃ left : List Operator, (∀ operator ∈ left, leaves operator = true) ∧
      waiting = left.map .operator ++ (release leaves waiting found).1 ∧
      (release leaves waiting found).2 = (left.map Item.operator).reverse ++ found := by
  fun_induction release leaves waiting found with
  | case1 operator rest found leaving ih =>
      obtain ⟨left, all, stack, items⟩ := ih
      exact ⟨operator :: left, by simpa [leaving] using all, by simp [← stack], by simp [items]⟩
  | case2 operator rest found staying => exact ⟨[], by simp, by simp, by simp⟩
  | case3 waiting found => exact ⟨[], by simp, by simp, by simp⟩

end Reading

def ofTokens (tokens : List Token) : Outcome Program :=
  match tokens with
  | [] => .error (.writing .emptyFormula)
  | _ :: _ =>
      match Reading.start.run tokens with
      | .error error => .error error
      | .ok reading => reading.finish

/-- Refuse a formula in which one bracketed reference follows another at once. -/
def checkBrackets (source : String) : Outcome Unit :=
  if hasAdjacentReferences source.toList then .error (.writing .adjacentReferences) else .ok ()

def body (formula : String) : String :=
  match formula.toList with
  | '=' :: rest => String.ofList rest
  | _ => formula

def parse (formula : String) : Outcome Program := do
  checkBrackets (body formula)
  ofTokens (← Token.tokenize (body formula))

end Program

end Spreadsheet

import Spreadsheet.Proofs.Expression

/-!
The grammar of formulas over tokens. A formula is a `concat`:

    concat  := sum ('&' sum)*
    sum     := term (('+' | '-') term)*
    term    := unary (('*' | '/') unary)*
    unary   := ('+' | '-') unary | power
    power   := primary ['^' unary]
    primary := number | text | reference | name | '(' concat ')' | function arguments ')'

where the arguments are none or a list of `concat` with commas between them. A chain groups to the
left: one operand more makes of a chain the left operand of its last operator.

A derivation gives the tokens of a phrase together with its tree. The facts about the table of
operators are all that is known of it elsewhere: which operators a waiting operator lets pass,
which make it leave, and what may stand at its right.
-/

set_option autoImplicit false

namespace Spreadsheet

/-- The kinds of phrases, from the loosest to the tightest. -/
inductive Phrase where
  | concat
  | sum
  | term
  | unary
  | power
  | primary

/-- A phrase stands wherever one of a lower level is asked for. -/
def Phrase.level : Phrase → Nat
  | .concat => 0
  | .sum => 1
  | .term => 2
  | .unary => 3
  | .power => 4
  | .primary => 5

namespace BinaryOperator

def phrase : BinaryOperator → Phrase
  | .concat => .concat
  | .add | .subtract => .sum
  | .multiply | .divide => .term
  | .power => .power

def leftPhrase : BinaryOperator → Phrase
  | .concat => .concat
  | .add | .subtract => .sum
  | .multiply | .divide => .term
  | .power => .primary

def rightPhrase : BinaryOperator → Phrase
  | .concat => .sum
  | .add | .subtract => .term
  | .multiply | .divide => .unary
  | .power => .unary

end BinaryOperator

/-- The tokens are a phrase of the kind, and the tree is what the phrase says. -/
inductive Derives : Phrase → List Token → Expression → Prop
  | number (n : Number) : Derives .primary [.number n] (.literal (.number n))
  | text (s : String) : Derives .primary [.text s] (.literal (.text s))
  | reference (target : Reference) : Derives .primary [.reference target] (.reference target)
  | name (given : String) : Derives .primary [.name given] (.name given)
  | group {tokens : List Token} {tree : Expression} (inside : Derives .concat tokens tree) :
      Derives .primary (.opening :: (tokens ++ [.closing])) tree
  | call (function : String) {arguments : List (List Token × Expression)}
      (each : ∀ argument ∈ arguments, Derives .concat argument.1 argument.2) :
      Derives .primary
        (.function function :: ([Token.comma].intercalate (arguments.map Prod.fst) ++ [.closing]))
        (.call function (arguments.map Prod.snd))
  | plus {tokens : List Token} {tree : Expression} (operand : Derives .unary tokens tree) :
      Derives .unary (.operator .add :: tokens) (.sign .plus tree)
  | minus {tokens : List Token} {tree : Expression} (operand : Derives .unary tokens tree) :
      Derives .unary (.operator .subtract :: tokens) (.sign .negate tree)
  | binary (operator : BinaryOperator) {before after : List Token} {left right : Expression}
      (leftOperand : Derives operator.leftPhrase before left)
      (rightOperand : Derives operator.rightPhrase after right) :
      Derives operator.phrase (before ++ .operator operator :: after) (.binary operator left right)
  | looser {tight loose : Phrase} {tokens : List Token} {tree : Expression}
      (notAbove : loose.level ≤ tight.level) (phrase : Derives tight tokens tree) :
      Derives loose tokens tree

namespace Operator

def phrase : Operator → Phrase
  | .sign _ => .unary
  | .binary operator => operator.phrase

def rightPhrase : Operator → Phrase
  | .sign _ => .unary
  | .binary operator => operator.rightPhrase

theorem rightPhrase_level_le_unary (operator : Operator) :
    operator.rightPhrase.level ≤ Phrase.unary.level := by
  cases operator with
  | sign sign => exact Nat.le_refl _
  | binary binary => cases binary <;> decide

end Operator

namespace BinaryOperator

open Program.Reading (goesFirst)

theorem phrase_level_le_leftPhrase (operator : BinaryOperator) :
    operator.phrase.level ≤ operator.leftPhrase.level := by
  cases operator <;> decide

theorem leftPhrase_level_le_primary (operator : BinaryOperator) :
    operator.leftPhrase.level ≤ Phrase.primary.level := by
  cases operator <;> decide

theorem stays_of_rightPhrase_le {operator : Operator} {next : BinaryOperator}
    (inside : operator.rightPhrase.level ≤ next.phrase.level) :
    goesFirst next operator = false := by
  revert inside
  cases operator with
  | sign sign => cases sign <;> cases next <;> decide
  | binary binary => cases binary <;> cases next <;> decide

theorem leaves_of_leftPhrase_le {operator : Operator} {next : BinaryOperator}
    (follows : next.leftPhrase.level ≤ operator.phrase.level) :
    goesFirst next operator = true := by
  revert follows
  cases operator with
  | sign sign => cases sign <;> cases next <;> decide
  | binary binary => cases binary <;> cases next <;> decide

theorem leftPhrase_le_of_leaves {operator : Operator} {next : BinaryOperator}
    (leaves : goesFirst next operator = true) :
    next.leftPhrase.level ≤ operator.phrase.level := by
  revert leaves
  cases operator with
  | sign sign => cases sign <;> cases next <;> decide
  | binary binary => cases binary <;> cases next <;> decide

/-- Below an operator that did not make it leave, an operator takes all that the upper one makes
for its right operand. -/
theorem rightPhrase_le_of_stays {below : Operator} {operator : BinaryOperator}
    (stays : goesFirst operator below = false) :
    below.rightPhrase.level ≤ operator.phrase.level := by
  revert stays
  cases below with
  | sign sign => cases sign <;> cases operator <;> decide
  | binary binary => cases binary <;> cases operator <;> decide

theorem leftPhrase_le_rightPhrase {operator : Operator} {next : BinaryOperator}
    (follows : next.leftPhrase.level ≤ operator.phrase.level) :
    next.leftPhrase.level ≤ operator.rightPhrase.level := by
  revert follows
  cases operator with
  | sign sign => exact id
  | binary binary => cases binary <;> cases next <;> decide

end BinaryOperator

end Spreadsheet

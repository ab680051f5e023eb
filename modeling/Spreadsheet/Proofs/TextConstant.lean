import Spreadsheet.Proofs.Interpolation

/-!
Formulas that are one text constant. A text is written as a formula by doubling its quotes and
putting one more at either end. Whatever it contains is cut as a single token, so nothing in it is
read as an operator, a reference or a call.

The test for adjacent references comes before the cutting and sees the characters of the constant
too. The main statement is that this is the only way in which the content matters: a text without
`][` is read back as the one constant that it is, and a text with it is refused by that test.
-/

set_option autoImplicit false

namespace Spreadsheet

namespace TextConstant

open Interpolation

def written (content : String) : List Char :=
  '"' :: (doubleQuotes content.toList ++ ['"'])

def formula (content : String) : String :=
  String.ofList ('=' :: written content)

theorem cuts_written (content : String) : Token.Cuts (written content) [.text content] [] := by
  have cut := cuts_text content.toList [] nofun
  rwa [String.ofList_toList] at cut

theorem hasAdjacentReferences_written (content : String) :
    hasAdjacentReferences (written content) = hasAdjacentReferences content.toList :=
  (hasAdjacentReferences_quoted content.toList []).trans (Bool.or_false _)

/-- A text constant is read as itself, and nothing in it as anything else. Only adjacent brackets in
it are refused, as they are everywhere in a formula. -/
theorem parse_formula (content : String) :
    (¬ [']', '['] <:+: content.toList →
        Program.parse (formula content) = .ok [.literal (.text content)]) ∧
      ([']', '['] <:+: content.toList →
        Program.parse (formula content) = .error (.writing .adjacentReferences)) := by
  have adjacent := hasAdjacentReferences_eq_true_iff content.toList
  rw [← hasAdjacentReferences_written] at adjacent
  constructor
  · intro apart
    have noneAdjacent : hasAdjacentReferences (written content) = false :=
      eq_false_of_ne_true (mt adjacent.1 apart)
    exact parse_eq_ok_iff.2 ⟨noneAdjacent, [.text content], .literal (.text content),
      cuts_written content, .looser (Nat.zero_le _) (.text content), rfl⟩
  · intro together
    have body : (Program.body (formula content)).toList = written content := by
      rw [Program.body, formula, String.toList_ofList]
      exact String.toList_ofList
    rw [Program.parse, Program.checkBrackets, body, if_pos (adjacent.2 together)]
    rfl

/-- Between the brackets of the smallest text that is refused there is nothing at all. -/
theorem parse_formula_brackets :
    Program.parse (formula "][") = .error (.writing .adjacentReferences) ∧
      Program.parse (formula "][") ≠ .ok [.literal (.text "][")] := by
  decide +kernel

end TextConstant

end Spreadsheet

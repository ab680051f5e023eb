import Spreadsheet.FormulaError

/-!
Written references. A reference is an address or two addresses with a colon between them, in
brackets or without. An address in a reference has the shape of one, letters and then digits,
before its column and its row are read. The main statement describes that shape.
-/

set_option autoImplicit false

namespace Spreadsheet

open Text

def isAddressShaped (text : List Char) : Bool :=
  let digits := text.dropWhile Char.isAlpha
  !(text.takeWhile Char.isAlpha).isEmpty && !digits.isEmpty && digits.all Char.isDigit

def hasAdjacentReferences : List Char → Bool
  | ']' :: '[' :: _ => true
  | _ :: rest => hasAdjacentReferences rest
  | [] => false

namespace Reference

/-- What stands between the brackets, or the whole text when there are none. A single bracket is
refused. -/
def unbracketed? (text : List Char) : Option (List Char) :=
  if text.head? = some '[' then
    if text.getLast? = some ']' then some text.tail.dropLast else none
  else if text.getLast? = some ']' then none
  else some text

def parseAddress (whole : String) (text : List Char) : Outcome Address :=
  let trimmed := trimChars text
  if isAddressShaped trimmed then
    match Address.parse (String.ofList trimmed) with
    | .ok address => .ok address
    | .error cause => .error (.writing (.invalidReferenceAddress whole cause))
  else .error (.writing (.invalidReference whole))

def parse (source : String) : Outcome Reference :=
  match unbracketed? (trimChars source.toList) with
  | none => .error (.writing (.unbalancedBrackets source))
  | some inner =>
      match cutAt ':' inner with
      | none => do
          let address ← parseAddress source inner
          return .cell address
      | some (left, right) => do
          let a ← parseAddress source left
          let b ← parseAddress source right
          return .range (CellRange.spanning a b)

end Reference

theorem isAddressShaped_iff (text : List Char) :
    isAddressShaped text = true ↔
      ∃ letters digits, text = letters ++ digits ∧ letters ≠ [] ∧ digits ≠ [] ∧
        (∀ c ∈ letters, c.isAlpha = true) ∧ ∀ c ∈ digits, c.isDigit = true := by
  simp only [isAddressShaped, Bool.and_eq_true, Bool.not_eq_true', List.isEmpty_eq_false_iff,
    List.all_eq_true]
  constructor
  · rintro ⟨⟨letters, digits⟩, allDigits⟩
    refine ⟨_, _, (List.takeWhile_append_dropWhile).symm, letters, digits, ?_, allDigits⟩
    exact fun c member => List.all_eq_true.1 List.all_takeWhile c member
  · rintro ⟨letters, digits, rfl, someLetters, someDigits, allLetters, allDigits⟩
    have noLetter : ∀ c ∈ digits, c.isAlpha = false := by
      intro c member
      have digit := allDigits c member
      change (decide (c.val ≥ 48) && decide (c.val ≤ 57)) = true at digit
      change (decide (c.val ≥ 65 ∧ c.val ≤ 90) ||
        (decide (c.val ≥ 97) && decide (c.val ≤ 122))) = false
      simp only [Bool.and_eq_true, decide_eq_true_eq, Bool.or_eq_false_iff, Bool.and_eq_false_imp,
        decide_eq_false_iff_not, ge_iff_le, UInt32.le_iff_toNat_le] at digit ⊢
      simp at digit ⊢
      omega
    obtain ⟨first, others, rfl⟩ := List.exists_cons_of_ne_nil someDigits
    have stop : first.isAlpha = false := noLetter first (by simp)
    rw [List.takeWhile_append_of_pos allLetters, List.dropWhile_append_of_pos allLetters]
    simp only [List.takeWhile_cons, List.dropWhile_cons, stop]
    simpa [someLetters] using allDigits

end Spreadsheet

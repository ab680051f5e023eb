import Spreadsheet.Column
import Spreadsheet.Text.Blank
import Std.Data.TreeMap

/-!
Cell addresses. Rows and columns are counted from zero inside and from one in writing, the
column by its letters: `B3` is row 2 and column 1. An address is read from trimmed text, letters
before digits. Addresses are ordered by row first and column second; the order is total, so that
sorted maps can be keyed by addresses.
-/

set_option autoImplicit false

namespace Spreadsheet

open Text

/-- The place of one cell, both coordinates counted from zero. -/
structure Address where
  row : Nat
  column : Nat
deriving DecidableEq

namespace Address

def columnLetters (address : Address) : String :=
  String.ofList (Column.letters (address.column + 1))

def text (address : Address) : String :=
  address.columnLetters ++ Nat.repr (address.row + 1)

instance : Ord Address where
  compare := compareLex (compareOn Address.row) (compareOn Address.column)

instance : Std.TransOrd Address :=
  inferInstanceAs (Std.TransCmp (compareLex (compareOn Address.row) (compareOn Address.column)))

def sort (addresses : List Address) : List Address :=
  addresses.mergeSort fun first second => (compare first second).isLE

theorem compare_eq_lt_iff (first second : Address) :
    compare first second = .lt ↔
      first.row < second.row ∨ (first.row = second.row ∧ first.column < second.column) := by
  show (compare first.row second.row).then (compare first.column second.column) = .lt ↔ _
  rw [Ordering.then_eq_lt, Nat.compare_eq_lt, Nat.compare_eq_eq, Nat.compare_eq_lt]

instance : Std.LawfulEqOrd Address where
  eq_of_compare {first second} same := by
    change (compare first.row second.row).then (compare first.column second.column) = .eq at same
    rw [Ordering.then_eq_eq, Nat.compare_eq_eq, Nat.compare_eq_eq] at same
    cases first
    cases second
    simp_all

/-- A row number counted from one: digits only, not zero, at most 64 bits. -/
def readRow (address : String) (digits : List Char) : Except AddressError Nat :=
  if digits = [] || !digits.all Char.isDigit then .error (.badRow address)
  else
    let row := Nat.ofDigitChars 10 digits 0
    if coordinateLimit < row then .error (.rowTooLarge address)
    else if row = 0 then .error (.rowZero address)
    else .ok row

/-- Read an address. Blanks around it are dropped, and the column is judged before the row. -/
def parse (source : String) : Except AddressError Address :=
  let address := trim source
  let characters := address.toList
  let columnPart := characters.takeWhile Char.isAlpha
  if characters = [] then .error .emptyAddress
  else if columnPart = [] then .error (.missingColumn address)
  else
    match Column.read columnPart with
    | .error fault => .error fault
    | .ok column =>
        match readRow address (characters.dropWhile Char.isAlpha) with
        | .error fault => .error fault
        | .ok row => .ok { row := row - 1, column := column - 1 }

theorem readRow_eq_ok_iff (address : String) (digits : List Char) (row : Nat) :
    readRow address digits = .ok row ↔
      digits ≠ [] ∧ (∀ digit ∈ digits, digit.isDigit = true) ∧
        Nat.ofDigitChars 10 digits 0 = row ∧ 1 ≤ row ∧ row ≤ coordinateLimit := by
  unfold readRow
  split
  · rename_i notDigits
    simp only [reduceCtorEq, false_iff]
    rintro ⟨nonempty, allDigits, -⟩
    simp [nonempty, List.all_eq_true.2 allDigits] at notDigits
  · rename_i isDigits
    simp only [Bool.or_eq_true, decide_eq_true_eq, Bool.not_eq_true', not_or,
      Bool.not_eq_false, List.all_eq_true] at isDigits
    obtain ⟨nonempty, allDigits⟩ := isDigits
    simp only [nonempty, ne_eq, not_false_eq_true, true_and]
    generalize Nat.ofDigitChars 10 digits 0 = value
    split
    · simp only [reduceCtorEq, false_iff]
      omega
    split
    · simp only [reduceCtorEq, false_iff]
      omega
    · simp only [Except.ok.injEq]
      constructor
      · rintro rfl
        exact ⟨allDigits, rfl, by omega, by omega⟩
      · exact fun facts => facts.2.1

end Address

end Spreadsheet

import Spreadsheet.Proofs.Numeral
import Spreadsheet.Reference.Written

/-!
Addresses in writing. The letters of a column and the digits of a row are different characters, and
neither are blanks, so a written address is taken apart where its column ends.

The main statement is that a written address is read as the address, as long as its coordinates
counted from one fit in 64 bits.
-/

set_option autoImplicit false

namespace Spreadsheet

open Text

theorem isAlpha_iff_toNat {c : Char} :
    c.isAlpha = true ↔ 65 ≤ c.toNat ∧ c.toNat ≤ 90 ∨ 97 ≤ c.toNat ∧ c.toNat ≤ 122 := by
  show (decide (c.val ≥ 65 ∧ c.val ≤ 90) || (decide (c.val ≥ 97) && decide (c.val ≤ 122))) = true ↔
    _
  simp only [Bool.or_eq_true, Bool.and_eq_true, decide_eq_true_eq, ge_iff_le,
    UInt32.le_iff_toNat_le]
  rfl

theorem isBlank_of_isAlpha {c : Char} (letter : c.isAlpha = true) : isBlank c = false := by
  have bounds := isAlpha_iff_toNat.1 letter
  simp only [isBlank, Bool.or_eq_false_iff, Bool.and_eq_false_iff, decide_eq_false_iff_not,
    beq_eq_false_iff_ne]
  omega

theorem isAlpha_of_isDigit {c : Char} (digit : c.isDigit = true) : c.isAlpha = false := by
  have bounds : 48 ≤ c.toNat ∧ c.toNat ≤ 57 := Char.isDigit_iff_toNat.1 digit
  rw [← Bool.not_eq_true, isAlpha_iff_toNat]
  omega

theorem isBlank_of_isWordChar {c : Char} (word : isWordChar c = true) : isBlank c = false := by
  rw [isWordChar, Char.isAlphanum, Bool.or_eq_true, Bool.or_eq_true] at word
  rcases word with (letter | digit) | underscore
  · exact isBlank_of_isAlpha letter
  · exact isBlank_of_isDigit digit
  · rw [eq_of_beq underscore]
    rfl

section Stop

variable {p : Char → Bool} {front rest : List Char} (all : ∀ c ∈ front, p c = true)
  (stops : ∀ c ∈ rest.head?, p c = false)

include all stops

theorem takeWhile_of_stop : (front ++ rest).takeWhile p = front := by
  rw [List.takeWhile_append_of_pos all]
  cases rest with
  | nil => exact List.append_nil _
  | cons c rest => rw [List.takeWhile_cons, stops c rfl, if_neg Bool.false_ne_true, List.append_nil]

theorem dropWhile_of_stop : (front ++ rest).dropWhile p = rest := by
  rw [List.dropWhile_append_of_pos all]
  cases rest with
  | nil => rfl
  | cons c rest => rw [List.dropWhile_cons, stops c rfl, if_neg Bool.false_ne_true]

end Stop

namespace Column

theorem isAlpha_of_mem_letters {n : Nat} {c : Char} (member : c ∈ letters n) :
    c.isAlpha = true := by
  have letter : ∀ digit < 26, (letterOf (digit + 1)).isAlpha = true := by decide
  induction n using Nat.strongRecOn with
  | ind n ih =>
      cases n with
      | zero =>
          rw [letters] at member
          cases member
      | succ previous =>
          rw [letters] at member
          rcases List.mem_append.1 member with earlier | last
          · exact ih (previous / 26) (by omega) earlier
          · rw [List.mem_singleton.1 last]
            exact letter _ (Nat.mod_lt _ (by decide))

theorem letters_succ_ne_nil (n : Nat) : letters (n + 1) ≠ [] := by
  rw [letters]
  exact List.append_ne_nil_of_right_ne_nil _ (List.cons_ne_nil _ _)

theorem read_letters {n : Nat} (fits : n + 1 ≤ coordinateLimit) :
    read (letters (n + 1)) = .ok (n + 1) :=
  (read_eq_ok_iff _ _).2
    ⟨letters_succ_ne_nil n, fun _ member => isAlpha_of_mem_letters member, fits, value_letters _⟩

end Column

namespace Address

/-- The coordinates, counted from one, fit in 64 bits. -/
structure Fits (address : Address) : Prop where
  row : address.row < coordinateLimit
  column : address.column < coordinateLimit

def rowDigits (address : Address) : List Char :=
  Nat.toDigits 10 (address.row + 1)

variable (address : Address)

theorem toList_text :
    address.text.toList = Column.letters (address.column + 1) ++ address.rowDigits := by
  rw [text, columnLetters, String.toList_append, String.toList_ofList]
  exact congrArg _ String.toList_ofList

theorem isDigit_of_mem_rowDigits {c : Char} (member : c ∈ address.rowDigits) :
    c.isDigit = true :=
  Nat.isDigit_of_mem_toDigits (by decide) (by decide) member

theorem isAddressShaped_text : isAddressShaped address.text.toList = true :=
  (isAddressShaped_iff _).2 ⟨_, _, address.toList_text, Column.letters_succ_ne_nil _,
    Nat.toDigits_ne_nil, fun _ member => Column.isAlpha_of_mem_letters member,
    fun _ member => address.isDigit_of_mem_rowDigits member⟩

theorem isWordChar_of_mem_text {c : Char} (member : c ∈ address.text.toList) :
    isWordChar c = true := by
  rw [toList_text] at member
  rw [isWordChar, Char.isAlphanum, Bool.or_eq_true, Bool.or_eq_true]
  rcases List.mem_append.1 member with letter | digit
  · exact .inl (.inl (Column.isAlpha_of_mem_letters letter))
  · exact .inl (.inr (address.isDigit_of_mem_rowDigits digit))

theorem trimChars_text : trimChars address.text.toList = address.text.toList := by
  have dark {c : Char} (member : c ∈ address.text.toList) : isBlank c = false :=
    isBlank_of_isWordChar (address.isWordChar_of_mem_text member)
  exact trimChars_eq_self (fun _ first => dark (List.mem_of_head? first))
    (fun _ last => dark (List.mem_of_getLast? last))

variable {address}

theorem readRow_rowDigits (whole : String) (fits : address.Fits) :
    readRow whole address.rowDigits = .ok (address.row + 1) :=
  (readRow_eq_ok_iff _ _ _).2 ⟨Nat.toDigits_ne_nil,
    fun _ member => address.isDigit_of_mem_rowDigits member,
    Nat.ofDigitChars_toDigits (by decide) (by decide), Nat.succ_pos _, fits.row⟩

theorem parse_text (fits : address.Fits) : parse address.text = .ok address := by
  have letters : ∀ c ∈ Column.letters (address.column + 1), c.isAlpha = true :=
    fun _ member => Column.isAlpha_of_mem_letters member
  have someLetter := Column.letters_succ_ne_nil address.column
  have stops : ∀ c ∈ address.rowDigits.head?, c.isAlpha = false := fun _ first =>
    isAlpha_of_isDigit (address.isDigit_of_mem_rowDigits (List.mem_of_head? first))
  have characters : (trim address.text).toList =
      Column.letters (address.column + 1) ++ address.rowDigits := by
    rw [trim, String.toList_ofList, trimChars_text, toList_text]
  have columnPart : (trim address.text).toList.takeWhile Char.isAlpha =
      Column.letters (address.column + 1) := by
    rw [characters, takeWhile_of_stop letters stops]
  have rowPart : (trim address.text).toList.dropWhile Char.isAlpha = address.rowDigits := by
    rw [characters, dropWhile_of_stop letters stops]
  have nonempty : (trim address.text).toList ≠ [] := by
    rw [characters]
    exact List.append_ne_nil_of_left_ne_nil someLetter _
  simp only [parse, if_neg nonempty, columnPart, if_neg someLetter, rowPart,
    Column.read_letters (n := address.column) fits.column, readRow_rowDigits _ fits,
    Nat.add_sub_cancel]

end Address

end Spreadsheet

import Spreadsheet.Proofs.Column

/-!
Spellings of addresses. A text spells an address when nothing but blanks stands around a run of
letters and the digits behind it, and when what these are worth are coordinates that fit. An address
has many spellings, since its letters may be small and zeros may stand before its row.

The main statement is that exactly the spellings are read as addresses, each as the address that it
spells, and that writing this address again gives the spelling in capitals and without the zeros in
front.
-/

set_option autoImplicit false

namespace Spreadsheet

open Text

section Digits

variable {digits : List Char}

theorem digitChar_of_isDigit {c : Char} (digit : c.isDigit = true) :
    c.toNat - 48 < 10 ∧ Nat.digitChar (c.toNat - 48) = c := by
  have bounds : 48 ≤ c.toNat ∧ c.toNat ≤ 57 := Char.isDigit_iff_toNat.1 digit
  have small : c.toNat - 48 < 10 := by omega
  refine ⟨small, Char.toNat_inj.1 ?_⟩
  rw [Nat.toNat_digitChar_of_lt_ten small]
  omega

theorem toDigits_ofDigitChars_of_pos (all : ∀ c ∈ digits, c.isDigit = true) {start : Nat}
    (positive : 0 < start) :
    Nat.toDigits 10 (Nat.ofDigitChars 10 digits start) = Nat.toDigits 10 start ++ digits := by
  induction digits generalizing start with
  | nil => rw [Nat.ofDigitChars_nil, List.append_nil]
  | cons c rest ih =>
      obtain ⟨digit, others⟩ := List.forall_mem_cons.1 all
      obtain ⟨small, same⟩ := digitChar_of_isDigit digit
      have extended : Nat.toDigits 10 (10 * start + (c.toNat - 48)) =
          Nat.toDigits 10 start ++ [c] := by
        rw [← Nat.toDigits_append_toDigits (by decide) positive small,
          Nat.toDigits_of_lt_base small, same]
      have behind := ih others (show 0 < 10 * start + (c.toNat - 48) by omega)
      rw [Nat.ofDigitChars_cons]
      rw [extended, List.append_assoc] at behind
      exact behind

/-- Reading digits and writing the number again loses the zeros in front and nothing else. -/
theorem toDigits_ofDigitChars (all : ∀ c ∈ digits, c.isDigit = true)
    (positive : 0 < Nat.ofDigitChars 10 digits 0) :
    Nat.toDigits 10 (Nat.ofDigitChars 10 digits 0) = digits.dropWhile (· = '0') := by
  induction digits with
  | nil => exact absurd positive (Nat.lt_irrefl 0)
  | cons c rest ih =>
      obtain ⟨digit, others⟩ := List.forall_mem_cons.1 all
      by_cases zero : c = '0'
      · rw [zero] at positive ⊢
        exact ih others positive
      · obtain ⟨small, same⟩ := digitChar_of_isDigit digit
        have first : 0 < c.toNat - 48 := by
          rw [Nat.pos_iff_ne_zero]
          intro nothing
          rw [nothing] at same
          exact zero same.symm
        have written := toDigits_ofDigitChars_of_pos others first
        rw [Nat.toDigits_of_lt_base small, same] at written
        have kept : (c :: rest).dropWhile (· = '0') = c :: rest := by
          rw [List.dropWhile_cons, if_neg (by simpa using zero)]
        rw [Nat.ofDigitChars_cons, kept, Nat.mul_zero, Nat.zero_add]
        exact written

end Digits

namespace Address

/-- A text that spells an address, with its letters and its digits. -/
structure Spells (text letters digits : List Char) : Prop where
  joined : text = letters ++ digits
  run : Column.IsRun letters
  column_fits : Column.worth letters ≤ coordinateLimit
  someDigit : digits ≠ []
  isDigit : ∀ c ∈ digits, c.isDigit = true
  row_positive : 1 ≤ Nat.ofDigitChars 10 digits 0
  row_fits : Nat.ofDigitChars 10 digits 0 ≤ coordinateLimit

def spelled (letters digits : List Char) : Address where
  row := Nat.ofDigitChars 10 digits 0 - 1
  column := Column.worth letters - 1

section Spells

variable {text letters digits : List Char}

theorem Spells.takeWhile_eq (spells : Spells text letters digits) :
    text.takeWhile Char.isAlpha = letters := by
  rw [spells.joined]
  exact takeWhile_of_stop spells.run.letters fun _ first =>
    isAlpha_of_isDigit (spells.isDigit _ (List.mem_of_head? first))

theorem Spells.dropWhile_eq (spells : Spells text letters digits) :
    text.dropWhile Char.isAlpha = digits := by
  rw [spells.joined]
  exact dropWhile_of_stop spells.run.letters fun _ first =>
    isAlpha_of_isDigit (spells.isDigit _ (List.mem_of_head? first))

theorem parse_eq_ok_iff_spells {source : String} {address : Address} :
    parse source = .ok address ↔
      ∃ letters digits, Spells (trimChars source.toList) letters digits ∧
        address = spelled letters digits := by
  rw [parse_eq_ok_iff]
  constructor
  · rintro ⟨column, row, readColumn, readDigits, rfl⟩
    obtain ⟨someLetter, isAlpha, columnFits, rfl⟩ := (Column.read_eq_ok_iff _ _).1 readColumn
    obtain ⟨someDigit, isDigit, rfl, positive, rowFits⟩ := (readRow_eq_ok_iff _ _ _).1 readDigits
    rw [Column.value_eq_worth isAlpha] at columnFits ⊢
    exact ⟨_, _, ⟨List.takeWhile_append_dropWhile.symm, ⟨someLetter, isAlpha⟩, columnFits,
      someDigit, isDigit, positive, rowFits⟩, rfl⟩
  · rintro ⟨letters, digits, spells, rfl⟩
    rw [spells.takeWhile_eq, spells.dropWhile_eq]
    refine ⟨Column.worth letters, Nat.ofDigitChars 10 digits 0, ?_, ?_, rfl⟩
    · exact (Column.read_eq_ok_iff _ _).2 ⟨spells.run.nonempty, spells.run.letters,
        spells.column_fits, Column.value_eq_worth spells.run.letters⟩
    · exact (readRow_eq_ok_iff _ _ _).2
        ⟨spells.someDigit, spells.isDigit, rfl, spells.row_positive, spells.row_fits⟩

theorem text_spelled (spells : Spells text letters digits) :
    (spelled letters digits).text =
      String.ofList (letters.map Char.toUpper ++ digits.dropWhile (· = '0')) := by
  have positive := Column.worth_pos spells.run
  have column : (spelled letters digits).column + 1 = Column.value letters := by
    rw [Column.value_eq_worth spells.run.letters]
    exact Nat.sub_add_cancel positive
  have row : (spelled letters digits).row + 1 = Nat.ofDigitChars 10 digits 0 :=
    Nat.sub_add_cancel spells.row_positive
  rw [← String.ofList_toList (s := (spelled letters digits).text), toList_text, rowDigits, column,
    row, Column.letters_value spells.run.letters,
    toDigits_ofDigitChars spells.isDigit spells.row_positive]

end Spells

/-- Writing and reading addresses undo each other. An address whose coordinates fit is read back
from its writing. A text is read as an address exactly when it spells the address, and this address
is written as the spelling in capitals, without the zeros in front of its row. -/
theorem read_spellings :
    (∀ address : Address, address.Fits → parse address.text = .ok address) ∧
      ∀ source : String,
        (∀ address, parse source = .ok address ↔
          ∃ letters digits, Spells (trimChars source.toList) letters digits ∧
            address = spelled letters digits) ∧
        ∀ letters digits, Spells (trimChars source.toList) letters digits →
          (spelled letters digits).text =
            String.ofList (letters.map Char.toUpper ++ digits.dropWhile (· = '0')) :=
  ⟨fun _ fits => parse_text fits,
    fun _ => ⟨fun _ => parse_eq_ok_iff_spells, fun _ _ spells => text_spelled spells⟩⟩

/-- The last cell of all, in small letters, with a zero in front of its row and between blanks of
two kinds. -/
theorem read_spellings_lastCell :
    Fits ⟨coordinateLimit - 1, coordinateLimit - 1⟩ ∧
      Spells (trimChars "\u00a0gkgwbylwrxtlpo018446744073709551615\t".toList)
        "gkgwbylwrxtlpo".toList "018446744073709551615".toList ∧
      parse "\u00a0gkgwbylwrxtlpo018446744073709551615\t" =
        .ok ⟨coordinateLimit - 1, coordinateLimit - 1⟩ ∧
      text ⟨coordinateLimit - 1, coordinateLimit - 1⟩ = "GKGWBYLWRXTLPO18446744073709551615" ∧
      parse (text ⟨coordinateLimit - 1, coordinateLimit - 1⟩) =
        .ok ⟨coordinateLimit - 1, coordinateLimit - 1⟩ := by
  have fits : Fits ⟨coordinateLimit - 1, coordinateLimit - 1⟩ := ⟨by decide, by decide⟩
  have spells : Spells (trimChars "\u00a0gkgwbylwrxtlpo018446744073709551615\t".toList)
      "gkgwbylwrxtlpo".toList "018446744073709551615".toList :=
    ⟨by decide, ⟨by decide, List.all_eq_true.1 (by decide)⟩, by decide, by decide,
      List.all_eq_true.1 (by decide), by decide, by decide⟩
  have read := (read_spellings.2 "\u00a0gkgwbylwrxtlpo018446744073709551615\t").1
    ⟨coordinateLimit - 1, coordinateLimit - 1⟩
  have written := (read_spellings.2 "\u00a0gkgwbylwrxtlpo018446744073709551615\t").2 _ _ spells
  exact ⟨fits, spells, read.2 ⟨_, _, spells, by decide⟩, written, read_spellings.1 _ fits⟩

end Address

end Spreadsheet

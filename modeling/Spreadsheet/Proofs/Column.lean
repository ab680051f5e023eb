import Mathlib.Algebra.Group.Nat.Defs
import Mathlib.Data.List.Induction
import Spreadsheet.Proofs.LetterCase

/-!
Column letters as numerals. A letter counts its place in the alphabet times a power of twenty-six,
and no letter counts nothing, so a run of letters has no leading letters that could be left out: the
capital letters of a number are the only capital letters that are worth it.

The main statement is that numbers from one to the limit and the runs of letters that are worth no
more than the limit correspond to each other, and that runs which are worth more are refused as too
large.
-/

set_option autoImplicit false

namespace Spreadsheet

namespace Column

def rank (letter : Char) : Nat :=
  if 'a' ≤ letter then letter.toNat - 96 else letter.toNat - 64

/-- What a run of letters is worth. Each letter counts its rank times a power of twenty-six, one
factor for each letter behind it. -/
def worth : List Char → Nat
  | [] => 0
  | letter :: rest => rank letter * 26 ^ rest.length + worth rest

/-- At least one letter, and nothing but letters. -/
structure IsRun (text : List Char) : Prop where
  nonempty : text ≠ []
  letters : ∀ c ∈ text, c.isAlpha = true

theorem letterValue_eq_rank {c : Char} (letter : c.isAlpha = true) : letterValue c = rank c := by
  have small : 'a' ≤ c ↔ 97 ≤ c.toNat := UInt32.le_iff_toNat_le
  have bounds := isAlpha_iff_toNat.1 letter
  rw [letterValue, toNat_toUpper, rank]
  simp only [small]
  split <;> split <;> omega

theorem letterValue_bounds {c : Char} (letter : c.isAlpha = true) :
    1 ≤ letterValue c ∧ letterValue c ≤ 26 := by
  have bounds := isAlpha_iff_toNat.1 letter
  rw [letterValue, toNat_toUpper]
  split <;> omega

theorem letterOf_letterValue {c : Char} (letter : c.isAlpha = true) :
    letterOf (letterValue c) = c.toUpper := by
  have capital := isAlpha_iff_toNat.1 ((isAlpha_toUpper c).trans letter)
  rw [letterOf, letterValue, Nat.sub_add_cancel (by omega), Char.ofNat_toNat]

/-- The reader multiplies what it has by twenty-six at each letter, which comes to the same. -/
theorem foldl_eq_worth {text : List Char} (letters : ∀ c ∈ text, c.isAlpha = true) (start : Nat) :
    text.foldl (fun number letter => number * 26 + letterValue letter) start =
      start * 26 ^ text.length + worth text := by
  induction text generalizing start with
  | nil => simp [worth]
  | cons c rest ih =>
      obtain ⟨letter, others⟩ := List.forall_mem_cons.1 letters
      rw [List.foldl_cons, ih others, worth, letterValue_eq_rank letter, List.length_cons,
        Nat.pow_succ, Nat.add_mul, Nat.mul_assoc, Nat.mul_comm 26, Nat.add_assoc]

theorem value_eq_worth {text : List Char} (letters : ∀ c ∈ text, c.isAlpha = true) :
    value text = worth text := by
  rw [value, foldl_eq_worth letters, Nat.zero_mul, Nat.zero_add]

theorem worth_pos {text : List Char} (run : IsRun text) : 0 < worth text := by
  obtain ⟨c, rest, rfl⟩ := List.exists_cons_of_ne_nil run.nonempty
  have letter := run.letters c List.mem_cons_self
  have first : 0 < rank c := letterValue_eq_rank letter ▸ (letterValue_bounds letter).1
  exact Nat.add_pos_left (Nat.mul_pos first (Nat.pow_pos (by decide))) _

theorem letters_append (number : Nat) {digit : Nat} (low : 1 ≤ digit) (high : digit ≤ 26) :
    letters (number * 26 + digit) = letters number ++ [letterOf digit] := by
  obtain ⟨below, rfl⟩ := Nat.exists_eq_add_of_le' low
  have front : (number * 26 + below) / 26 = number := by omega
  have last : (number * 26 + below) % 26 = below := by omega
  rw [← Nat.add_assoc, letters, front, last]

theorem letters_value {text : List Char} (run : ∀ c ∈ text, c.isAlpha = true) :
    letters (value text) = text.map Char.toUpper := by
  induction text using List.reverseRecOn with
  | nil => rw [value, List.foldl_nil, letters, List.map_nil]
  | append_singleton front last ih =>
      have letter := run last (by simp)
      have before := ih fun c member => run c (List.mem_append_left _ member)
      obtain ⟨low, high⟩ := letterValue_bounds letter
      rw [value_append_singleton, letters_append _ low high, before, letterOf_letterValue letter,
        List.map_append, List.map_singleton]

theorem readFrom_tooLarge (all : List Char) {rest : List Char} {start : Nat}
    (letters : ∀ c ∈ rest, c.isAlpha = true) (fits : start ≤ coordinateLimit)
    (large : coordinateLimit <
      rest.foldl (fun number letter => number * 26 + letterValue letter) start) :
    readFrom all start rest = .error (.columnTooLarge (String.ofList all)) := by
  induction rest generalizing start with
  | nil => exact absurd fits (Nat.not_le_of_lt large)
  | cons c rest ih =>
      obtain ⟨letter, others⟩ := List.forall_mem_cons.1 letters
      rw [readFrom, if_pos letter]
      dsimp only
      split
      · rename_i extendedFits
        exact ih others extendedFits large
      · rfl

theorem number_eq_ok_iff {text : String} {result : Nat} :
    number text = .ok result ↔
      IsRun text.toList ∧ worth text.toList = result ∧ result ≤ coordinateLimit := by
  rw [number, read_eq_ok_iff]
  constructor
  · rintro ⟨nonempty, letters, fits, same⟩
    exact ⟨⟨nonempty, letters⟩, (value_eq_worth letters).symm.trans same, fits⟩
  · rintro ⟨⟨nonempty, letters⟩, same, fits⟩
    exact ⟨nonempty, letters, fits, (value_eq_worth letters).trans same⟩

theorem read_tooLarge {text : List Char} (letters : ∀ c ∈ text, c.isAlpha = true)
    (large : coordinateLimit < worth text) :
    read text = .error (.columnTooLarge (String.ofList text)) := by
  cases text with
  | nil => exact absurd large (Nat.not_lt_zero _)
  | cons first others =>
      rw [← value_eq_worth letters] at large
      exact readFrom_tooLarge _ letters (Nat.zero_le _) large

/-- Numbers and their letters correspond. The letters of a number from one to the limit are read as
that number; a text is read as a number exactly when it is a run of letters that is worth that
number and the number is not above the limit, and then it is, in capitals, what the number is
written as; and a run of letters that is worth more is refused as too large. -/
theorem number_letters_correspond :
    (∀ n, 1 ≤ n → n ≤ coordinateLimit → number (String.ofList (letters n)) = .ok n) ∧
      ∀ text : String,
        (∀ n, number text = .ok n ↔
          IsRun text.toList ∧ worth text.toList = n ∧ n ≤ coordinateLimit) ∧
        (∀ n, number text = .ok n → String.ofList (letters n) = Text.upper text) ∧
        ((∀ c ∈ text.toList, c.isAlpha = true) → coordinateLimit < worth text.toList →
          number text = .error (.columnTooLarge text)) := by
  constructor
  · intro n positive fits
    obtain ⟨previous, rfl⟩ := Nat.exists_eq_add_of_le' positive
    rw [number, String.toList_ofList]
    exact read_letters fits
  · intro text
    refine ⟨fun n => number_eq_ok_iff, fun n found => ?_, fun run large => ?_⟩
    · obtain ⟨run, same, -⟩ := number_eq_ok_iff.1 found
      rw [Text.upper, ← same, ← value_eq_worth run.letters, letters_value run.letters]
    · rw [number, read_tooLarge run large, String.ofList_toList]

/-- The last column in small letters, and the one behind it. -/
theorem number_letters_correspond_lastColumn :
    number (String.ofList (letters coordinateLimit)) = .ok coordinateLimit ∧
      number "gkgwbylwrxtlpo" = .ok coordinateLimit ∧
      String.ofList (letters coordinateLimit) = Text.upper "gkgwbylwrxtlpo" ∧
      number "GKGWBYLWRXTLPP" = .error (.columnTooLarge "GKGWBYLWRXTLPP") := by
  obtain ⟨read_back, texts⟩ := number_letters_correspond
  have run : IsRun "gkgwbylwrxtlpo".toList := ⟨by decide, List.all_eq_true.1 (by decide)⟩
  have last := ((texts "gkgwbylwrxtlpo").1 coordinateLimit).2 ⟨run, by decide, Nat.le_refl _⟩
  exact ⟨read_back coordinateLimit (by decide) (Nat.le_refl _), last,
    (texts "gkgwbylwrxtlpo").2.1 coordinateLimit last,
    (texts "GKGWBYLWRXTLPP").2.2 (List.all_eq_true.1 (by decide)) (by decide)⟩

end Column

end Spreadsheet

import Spreadsheet.AddressError

/-!
Column letters. Columns are counted from one and written in the twenty-six digits `A` to `Z`
with no zero: `Z` is 26 and `AA` is 27. Reading takes either case and refuses numbers that do
not fit in 64 bits; the value of a run of letters is defined beside the reader and without
that limit. The main statements are that the letters of a number have its value, and that the
reader gives the value of its letters whenever that fits.
-/

set_option autoImplicit false

namespace Spreadsheet

/-- The largest row number, column number and count of cells: 64 bits, all set. -/
def coordinateLimit : Nat := 18446744073709551615

namespace Column

def letterValue (letter : Char) : Nat :=
  letter.toUpper.toNat - 64

def letterOf (digit : Nat) : Char :=
  Char.ofNat (digit + 64)

def value (letters : List Char) : Nat :=
  letters.foldl (fun number letter => number * 26 + letterValue letter) 0

def letters (number : Nat) : List Char :=
  match number with
  | 0 => []
  | previous + 1 => letters (previous / 26) ++ [letterOf (previous % 26 + 1)]
decreasing_by omega

def readFrom (all : List Char) (number : Nat) : List Char → Except AddressError Nat
  | [] => .ok number
  | letter :: rest =>
      if letter.isAlpha then
        let extended := number * 26 + letterValue letter
        if extended ≤ coordinateLimit then readFrom all extended rest
        else .error (.columnTooLarge (String.ofList all))
      else .error (.notALetter letter)

/-- The column number of a run of letters. Of two faults the one further left is reported. -/
def read (text : List Char) : Except AddressError Nat :=
  match text with
  | [] => .error .noLetters
  | _ :: _ => readFrom text 0 text

def number (text : String) : Except AddressError Nat :=
  read text.toList

theorem value_append_singleton (front : List Char) (last : Char) :
    value (front ++ [last]) = value front * 26 + letterValue last := by
  simp [value]

theorem letterValue_letterOf {digit : Nat} (low : 1 ≤ digit) (high : digit ≤ 26) :
    letterValue (letterOf digit) = digit := by
  have all : ∀ d < 27, 1 ≤ d → letterValue (letterOf d) = d := by decide
  exact all digit (by omega) low

theorem value_letters (n : Nat) : value (letters n) = n := by
  induction n using Nat.strongRecOn with
  | ind n ih =>
      match n with
      | 0 => simp [letters, value]
      | previous + 1 =>
          rw [letters, value_append_singleton, ih (previous / 26) (by omega),
            letterValue_letterOf (by omega) (by omega)]
          omega

private theorem le_foldl (rest : List Char) (start : Nat) :
    start ≤ rest.foldl (fun number letter => number * 26 + letterValue letter) start := by
  induction rest generalizing start with
  | nil => exact Nat.le_refl _
  | cons letter rest ih =>
      refine Nat.le_trans ?_ (ih _)
      show start ≤ start * 26 + letterValue letter
      omega

theorem readFrom_eq_ok_iff (all rest : List Char) (start result : Nat)
    (fits : start ≤ coordinateLimit) :
    readFrom all start rest = .ok result ↔
      (∀ letter ∈ rest, letter.isAlpha = true) ∧ result ≤ coordinateLimit ∧
        rest.foldl (fun number letter => number * 26 + letterValue letter) start = result := by
  induction rest generalizing start with
  | nil =>
      simp only [readFrom, Except.ok.injEq, List.not_mem_nil, false_implies, implies_true,
        true_and, List.foldl_nil]
      constructor
      · rintro rfl
        exact ⟨fits, rfl⟩
      · exact And.right
  | cons letter rest ih =>
      simp only [readFrom, List.mem_cons, forall_eq_or_imp, List.foldl_cons]
      split
      · rename_i isLetter
        split
        · rename_i extendedFits
          rw [ih _ extendedFits]
          simp [isLetter]
        · rename_i tooLarge
          simp only [reduceCtorEq, false_iff]
          rintro ⟨-, resultFits, rfl⟩
          exact tooLarge (Nat.le_trans (le_foldl rest _) resultFits)
      · rename_i noLetter
        simp [noLetter]

/-- The reader accepts the non-empty runs of letters whose value fits, and gives their value. -/
theorem read_eq_ok_iff (text : List Char) (result : Nat) :
    read text = .ok result ↔
      text ≠ [] ∧ (∀ letter ∈ text, letter.isAlpha = true) ∧ result ≤ coordinateLimit ∧
        value text = result := by
  cases text with
  | nil => simp [read]
  | cons letter rest =>
      simp only [read, ne_eq, reduceCtorEq, not_false_eq_true, true_and, value]
      exact readFrom_eq_ok_iff _ _ _ _ (Nat.zero_le _)

end Column

end Spreadsheet

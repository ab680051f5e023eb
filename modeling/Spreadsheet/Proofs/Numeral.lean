import Mathlib.Data.List.TakeWhile
import Spreadsheet.Interpolation
import Spreadsheet.Value

/-!
Integers in writing. The digits of a natural number are one numeral without point and exponent, and
there are no blanks around them, so a cell with an integer written in it holds that integer: also
the least one, whose digits alone would not fit.
-/

set_option autoImplicit false

namespace Spreadsheet

open Text

theorem isBlank_of_isDigit {c : Char} (digit : c.isDigit = true) : isBlank c = false := by
  have bounds : 48 ≤ c.toNat ∧ c.toNat ≤ 57 := Char.isDigit_iff_toNat.1 digit
  simp only [isBlank, Bool.or_eq_false_iff, Bool.and_eq_false_iff, decide_eq_false_iff_not,
    beq_eq_false_iff_ne]
  omega

theorem trimChars_eq_self {text : List Char} (front : ∀ c ∈ text.head?, isBlank c = false)
    (back : ∀ c ∈ text.getLast?, isBlank c = false) : trimChars text = text := by
  have kept {part : List Char} (ends : ∀ c ∈ part.head?, isBlank c = false) :
      skipBlanks part = part := by
    cases part with
    | nil => rfl
    | cons c rest => exact skipBlanks_of_head (ends c rfl)
  rw [trimChars, kept front, kept (by rwa [List.head?_reverse]), List.reverse_reverse]

namespace Numeral

theorem scan_digits {digits : List Char} (all : ∀ c ∈ digits, c.isDigit = true) :
    scan digits = ({ whole := digits, fraction := none, exponent := none }, []) := by
  have whole : digits.takeWhile Char.isDigit = digits := List.takeWhile_eq_self_iff.2 all
  have rest : digits.dropWhile Char.isDigit = [] := List.dropWhile_eq_nil_iff.2 all
  rw [scan, whole, rest]
  rfl

theorem number?_digits (negative : Bool) {digits : List Char} {n : Int64}
    (value : n.toInt = if negative then Int.negOfNat (Nat.ofDigitChars 10 digits 0)
      else Nat.ofDigitChars 10 digits 0) :
    number? negative { whole := digits, fraction := none, exponent := none } = some (.int n) := by
  have exact_value : (integer? { whole := digits, fraction := none, exponent := none }).bind
      (fun m => Number.ofInt? (if negative then Int.negOfNat m else m)) = some (.int n) := by
    rw [integer?]
    exact (congrArg Number.ofInt? value.symm).trans (Number.ofInt?_toInt n)
  rw [number?, exact_value]
  rfl

theorem read_signed {negative : Bool} {digits : List Char} {n : Int64} (some_digit : digits ≠ [])
    (all : ∀ c ∈ digits, c.isDigit = true)
    (value : n.toInt = if negative then Int.negOfNat (Nat.ofDigitChars 10 digits 0)
      else Nat.ofDigitChars 10 digits 0) :
    read (String.ofList (if negative then '-' :: digits else digits)) = some (.int n) := by
  obtain ⟨first, others, rfl⟩ := List.exists_cons_of_ne_nil some_digit
  have digit := all first List.mem_cons_self
  have last : ∀ c ∈ (first :: others).getLast?, isBlank c = false :=
    fun c member => isBlank_of_isDigit (all c (List.mem_of_getLast? member))
  have trimmed : trimChars (if negative then '-' :: first :: others else first :: others) =
      if negative then '-' :: first :: others else first :: others := by
    cases negative with
    | false =>
        refine trimChars_eq_self ?_ last
        rintro c ⟨⟩
        exact isBlank_of_isDigit digit
    | true =>
        refine trimChars_eq_self ?_ last
        rintro c ⟨⟩
        rfl
  have signed : scanSign (if negative then '-' :: first :: others else first :: others) =
      (negative, first :: others) := by
    cases negative with
    | false =>
        rw [if_neg Bool.false_ne_true]
        refine scanSign.eq_3 _ ?_ ?_
        · rintro rest ⟨⟩
          cases digit
        · rintro rest ⟨⟩
          cases digit
    | true => rfl
  have starts : startsAt (first :: others) = true := by
    rw [startsAt.eq_2]
    · exact digit
    · rintro c rest ⟨⟩
      cases digit
  rw [read, String.toList_ofList, trimmed, signed]
  simp only [starts, if_true, scan_digits all]
  exact number?_digits negative value

end Numeral

theorem repr_eq_ofList (n : Int) :
    Int.repr n = String.ofList (if n < 0 then '-' :: Nat.toDigits 10 n.natAbs
      else Nat.toDigits 10 n.natAbs) := by
  cases n with
  | ofNat m => rfl
  | negSucc m =>
      rw [if_pos (Int.negSucc_lt_zero m), Int.natAbs_negSucc]
      have joined : String.ofList (['-'] ++ Nat.toDigits 10 (m + 1)) =
          String.ofList ['-'] ++ String.ofList (Nat.toDigits 10 (m + 1)) := String.ofList_append
      exact joined.symm

namespace Value

theorem ofLiteral_display_int (n : Int64) : ofLiteral (int n).display = int n := by
  have digits : ∀ c ∈ Nat.toDigits 10 n.toInt.natAbs, c.isDigit = true :=
    fun c member => Nat.isDigit_of_mem_toDigits (by decide) (by decide) member
  have magnitude : Nat.ofDigitChars 10 (Nat.toDigits 10 n.toInt.natAbs) 0 = n.toInt.natAbs :=
    Nat.ofDigitChars_toDigits (by decide) (by decide)
  have value : n.toInt = if decide (n.toInt < 0) = true then
      Int.negOfNat (Nat.ofDigitChars 10 (Nat.toDigits 10 n.toInt.natAbs) 0)
      else Nat.ofDigitChars 10 (Nat.toDigits 10 n.toInt.natAbs) 0 := by
    rw [magnitude]
    split
    · rename_i negative
      have below := of_decide_eq_true negative
      rw [Int.negOfNat_eq]
      show n.toInt = -(n.toInt.natAbs : Int)
      omega
    · rename_i notNegative
      rw [decide_eq_true_eq] at notNegative
      omega
  have read := Numeral.read_signed Nat.toDigits_ne_nil digits value
  simp only [decide_eq_true_eq] at read
  rw [ofLiteral, int, display, Number.text, repr_eq_ofList, read]

theorem isFormula_display_int (n : Int64) : isFormula (int n).display = false := by
  rw [int, display, Number.text, repr_eq_ofList, isFormula, String.toList_ofList]
  split
  · rename_i next rest written
    split at written
    · cases written
    · have first : '=' ∈ Nat.toDigits 10 n.toInt.natAbs := by
        rw [written]
        exact List.mem_cons_self
      cases Nat.isDigit_of_mem_toDigits (by decide) (by decide) first
  · rfl

end Value

end Spreadsheet

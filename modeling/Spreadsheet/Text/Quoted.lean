import Spreadsheet.Text.Standalone

/-!
Text between double quotes, on one line. A backslash stands before the quote and the backslash;
tab, line feed, carriage return and NUL have letters of their own; a character which does not
stand alone is written by its code point. This is how a text constant appears in the written form
of a program. The main statement is that such a line shows only characters that stand alone.
-/

set_option autoImplicit false

namespace Spreadsheet.Text

def escapedCodePoint (c : Char) : List Char :=
  ['\\', 'u', '{'] ++ Nat.toDigits 16 c.toNat ++ ['}']

def quotedChar (c : Char) : List Char :=
  if c = '\x00' then ['\\', '0']
  else if c = '\t' then ['\\', 't']
  else if c = '\r' then ['\\', 'r']
  else if c = '\n' then ['\\', 'n']
  else if c = '"' || c = '\\' then ['\\', c]
  else if standsAlone c then [c]
  else escapedCodePoint c

def quoted (text : String) : String :=
  String.ofList ('"' :: text.toList.flatMap quotedChar ++ ['"'])

theorem standsAlone_of_ascii {c : Char} (h : 0x20 ≤ c.toNat ∧ c.toNat < 0x7F) :
    standsAlone c = true := by
  unfold standsAlone
  rw [if_pos h.2]
  exact decide_eq_true h.1

private theorem standsAlone_hexDigit (value : Nat) (small : value < 16) :
    standsAlone (Nat.digitChar value) = true := by
  have ascii : ∀ v < 16, 0x20 ≤ (Nat.digitChar v).toNat ∧ (Nat.digitChar v).toNat < 0x7F := by
    decide
  exact standsAlone_of_ascii (ascii value small)

private theorem standsAlone_of_mem_toDigits (n : Nat) :
    ∀ d ∈ Nat.toDigits 16 n, standsAlone d = true := by
  induction n using Nat.strongRecOn with
  | ind n ih =>
      intro d hDigit
      rw [Nat.toDigits_eq_if (by decide)] at hDigit
      split at hDigit
      · rename_i small
        rw [List.mem_singleton.1 hDigit]
        exact standsAlone_hexDigit n small
      · rcases List.mem_append.1 hDigit with inner | last
        · exact ih (n / 16) (by omega) d inner
        · rw [List.mem_singleton.1 last]
          exact standsAlone_hexDigit _ (Nat.mod_lt _ (by decide))

theorem standsAlone_of_mem_quotedChar {c written : Char} (h : written ∈ quotedChar c) :
    standsAlone written = true := by
  have letters : ∀ d ∈ ['\\', '0', 't', 'r', 'n', '"', 'u', '{', '}'], standsAlone d = true := by
    intro d member
    simp only [List.mem_cons, List.not_mem_nil, or_false] at member
    apply standsAlone_of_ascii
    rcases member with rfl | rfl | rfl | rfl | rfl | rfl | rfl | rfl | rfl
    all_goals decide
  unfold quotedChar at h
  split at h
  · exact letters written (by clear letters; grind)
  split at h
  · exact letters written (by clear letters; grind)
  split at h
  · exact letters written (by clear letters; grind)
  split at h
  · exact letters written (by clear letters; grind)
  split at h
  · rename_i special
    simp only [Bool.or_eq_true, decide_eq_true_eq] at special
    rcases special with rfl | rfl <;> exact letters written (by clear letters; grind)
  split at h
  · rw [List.mem_singleton.1 h]
    assumption
  · simp only [escapedCodePoint, List.mem_append] at h
    rcases h with (opening | digit) | closing
    · exact letters written (by clear letters; grind)
    · exact standsAlone_of_mem_toDigits _ written digit
    · exact letters written (by clear letters; grind)

end Spreadsheet.Text

import Mathlib.Computability.RegularExpressions
import Spreadsheet.Proofs.Numeral.Scanning

/-!
The shape of numerals as a regular expression. The scanner takes numerals apart; the expression
describes whole texts and knows no parts.

The main statement is that the expression matches a text exactly when the text is a well-formed
numeral with at most one sign in front.
-/

set_option autoImplicit false

namespace Spreadsheet

open RegularExpression

namespace Numeral.Pattern

def oneOf (characters : List Char) : RegularExpression Char :=
  (characters.map char).sum

def optional (expression : RegularExpression Char) : RegularExpression Char :=
  1 + expression

def digit : RegularExpression Char :=
  oneOf ['0', '1', '2', '3', '4', '5', '6', '7', '8', '9']

def digits : RegularExpression Char :=
  digit * star digit

def mantissa : RegularExpression Char :=
  digits * optional (char '.') * star digit + char '.' * digits

def exponent : RegularExpression Char :=
  oneOf ['e', 'E'] * optional (oneOf ['+', '-']) * digits

/-- The whole expression: a sign or none, a mantissa, an exponent or none. -/
def literal : RegularExpression Char :=
  optional (oneOf ['+', '-']) * mantissa * optional exponent

variable {text : List Char}

theorem mem_oneOf {characters : List Char} :
    text ∈ (oneOf characters).matches' ↔ ∃ c ∈ characters, text = [c] := by
  induction characters with
  | nil => exact iff_of_false (Language.notMem_zero text) (by simp)
  | cons first others ih =>
      rw [oneOf, List.map_cons, List.sum_cons, matches'_add, Language.mem_add, ← oneOf, ih,
        List.exists_mem_cons_iff]
      exact Iff.rfl

theorem mem_optional {expression : RegularExpression Char} :
    text ∈ (optional expression).matches' ↔ text = [] ∨ text ∈ expression.matches' := by
  rw [optional, matches'_add, Language.mem_add]
  exact Iff.rfl

theorem mem_char {c : Char} : text ∈ (char c).matches' ↔ text = [c] :=
  Iff.rfl

theorem mem_digit : text ∈ digit.matches' ↔ ∃ c, c.isDigit = true ∧ text = [c] := by
  rw [digit, mem_oneOf]
  constructor
  · rintro ⟨c, listed, same⟩
    have all : ∀ c ∈ ['0', '1', '2', '3', '4', '5', '6', '7', '8', '9'], c.isDigit = true :=
      List.all_eq_true.1 rfl
    exact ⟨c, all c listed, same⟩
  · rintro ⟨c, isDigit, same⟩
    have bounds : 48 ≤ c.toNat ∧ c.toNat ≤ 57 := Char.isDigit_iff_toNat.1 isDigit
    have all : ∀ code < 58, 48 ≤ code →
        Char.ofNat code ∈ ['0', '1', '2', '3', '4', '5', '6', '7', '8', '9'] := by
      decide
    refine ⟨c, ?_, same⟩
    rw [← Char.ofNat_toNat c]
    exact all c.toNat (by omega) bounds.1

theorem mem_star_digit : text ∈ (star digit).matches' ↔ ∀ c ∈ text, c.isDigit = true := by
  rw [matches'_star, Language.mem_kstar]
  constructor
  · rintro ⟨words, rfl, all⟩ c member
    obtain ⟨word, inWords, inWord⟩ := List.mem_flatten.1 member
    obtain ⟨d, isDigit, rfl⟩ := mem_digit.1 (all word inWords)
    rw [List.mem_singleton.1 inWord]
    exact isDigit
  · intro all
    refine ⟨text.map fun c => [c], List.flatMap_singleton' text |>.symm, ?_⟩
    rw [List.forall_mem_map]
    exact fun c member => mem_digit.2 ⟨c, all c member, rfl⟩

theorem mem_digits : text ∈ digits.matches' ↔ text ≠ [] ∧ ∀ c ∈ text, c.isDigit = true := by
  rw [digits, matches'_mul, Language.mem_mul]
  constructor
  · rintro ⟨first, one, rest, many, rfl⟩
    obtain ⟨c, isDigit, rfl⟩ := mem_digit.1 one
    exact ⟨List.cons_ne_nil _ _, List.forall_mem_cons.2 ⟨isDigit, mem_star_digit.1 many⟩⟩
  · rintro ⟨nonempty, all⟩
    obtain ⟨c, rest, rfl⟩ := List.exists_cons_of_ne_nil nonempty
    obtain ⟨isDigit, others⟩ := List.forall_mem_cons.1 all
    exact ⟨[c], mem_digit.2 ⟨c, isDigit, rfl⟩, rest, mem_star_digit.2 others, rfl⟩

theorem mem_optional_iff {α : Type} {expression : RegularExpression Char} {Fits : α → Prop}
    {written : α → List Char}
    (mem_iff : ∀ text, text ∈ expression.matches' ↔ ∃ part, Fits part ∧ text = written part) :
    text ∈ (optional expression).matches' ↔
      ∃ choice : Option α, (∀ part ∈ choice, Fits part) ∧
        text = (choice.map written).getD [] := by
  rw [mem_optional, mem_iff]
  constructor
  · rintro (rfl | ⟨part, fits, rfl⟩)
    · exact ⟨none, nofun, rfl⟩
    · refine ⟨some part, ?_, rfl⟩
      rintro _ ⟨⟩
      exact fits
  · rintro ⟨choice, fits, rfl⟩
    cases choice with
    | none => exact .inl rfl
    | some part => exact .inr ⟨part, fits part rfl, rfl⟩

theorem mem_optional_oneOf {characters : List Char} :
    text ∈ (optional (oneOf characters)).matches' ↔
      ∃ choice : Option Char, (∀ c ∈ choice, c ∈ characters) ∧ text = choice.toList := by
  rw [mem_optional_iff fun _ => mem_oneOf]
  refine exists_congr fun choice => and_congr_right fun _ => ?_
  cases choice <;> rfl

theorem mem_mantissa :
    text ∈ mantissa.matches' ↔
      ∃ numeral : Numeral, numeral.Formed ∧ numeral.exponent = none ∧ text = numeral.text := by
  simp only [mantissa, matches'_add, matches'_mul, Language.mem_add, Language.mem_mul, mem_digits,
    mem_star_digit, mem_optional, mem_char]
  constructor
  · rintro (⟨_, ⟨whole, ⟨nonempty, isDigit⟩, point, absent | present, rfl⟩, rest, others, rfl⟩ |
      ⟨_, rfl, digits, ⟨nonempty, isDigit⟩, rfl⟩)
    · refine ⟨{ whole := whole ++ rest, fraction := none, exponent := none }, ?_, rfl, ?_⟩
      · exact formed_withoutExponent (List.forall_mem_append.2 ⟨isDigit, others⟩)
          (fun _ missing => absurd missing (Option.not_mem_none _))
          (.inl (List.append_ne_nil_of_left_ne_nil nonempty rest))
      · simp [absent, Numeral.text]
    · refine ⟨{ whole, fraction := some rest, exponent := none }, ?_, rfl, ?_⟩
      · refine formed_withoutExponent isDigit ?_ (.inl nonempty)
        rintro _ ⟨⟩
        exact others
      · simp [present, Numeral.text]
    · refine ⟨{ whole := [], fraction := some digits, exponent := none }, ?_, rfl, ?_⟩
      · refine formed_withoutExponent (List.forall_mem_nil _) ?_ (.inr ⟨digits, rfl, nonempty⟩)
        rintro _ ⟨⟩
        exact isDigit
      · simp [Numeral.text]
  · rintro ⟨⟨whole, fraction, exponent⟩, formed, rfl, rfl⟩
    obtain ⟨isDigit, behind, someDigit, -⟩ := formed
    dsimp only at isDigit behind someDigit
    by_cases nonempty : whole = []
    · obtain ⟨digits, rfl, some⟩ := someDigit.resolve_left (not_not_intro nonempty)
      exact .inr ⟨['.'], rfl, digits, ⟨some, behind digits rfl⟩, by simp [Numeral.text, nonempty]⟩
    · left
      cases fraction with
      | none =>
          exact ⟨whole, ⟨whole, ⟨nonempty, isDigit⟩, [], .inl rfl, by simp⟩, [],
            List.forall_mem_nil _, by simp [Numeral.text]⟩
      | some digits =>
          exact ⟨whole ++ ['.'], ⟨whole, ⟨nonempty, isDigit⟩, ['.'], .inr rfl, rfl⟩, digits,
            behind digits rfl, by simp [Numeral.text]⟩

theorem mem_exponent :
    text ∈ exponent.matches' ↔ ∃ exponent : Exponent, exponent.Formed ∧ text = exponent.text := by
  simp only [exponent, matches'_mul, Language.mem_mul, mem_oneOf, mem_optional_oneOf, mem_digits]
  constructor
  · rintro ⟨_, ⟨_, ⟨mark, isMark, rfl⟩, _, ⟨sign, isSign, rfl⟩, rfl⟩, digits,
      ⟨nonempty, isDigit⟩, rfl⟩
    exact ⟨{ mark, sign, digits }, ⟨isMark, isSign, nonempty, isDigit⟩, rfl⟩
  · rintro ⟨⟨mark, sign, digits⟩, ⟨isMark, isSign, nonempty, isDigit⟩, rfl⟩
    exact ⟨_, ⟨_, ⟨mark, isMark, rfl⟩, _, ⟨sign, isSign, rfl⟩, rfl⟩, digits,
      ⟨nonempty, isDigit⟩, rfl⟩

/-- The numerals with at most one sign in front, and nothing else, are matched. -/
theorem mem_literal :
    text ∈ literal.matches' ↔
      ∃ (sign : Option Char) (numeral : Numeral), (∀ c ∈ sign, c ∈ ['+', '-']) ∧ numeral.Formed ∧
        text = sign.toList ++ numeral.text := by
  simp only [literal, matches'_mul, Language.mem_mul, mem_optional_oneOf, mem_mantissa,
    mem_optional_iff fun _ => mem_exponent]
  constructor
  · rintro ⟨_, ⟨_, ⟨sign, isSign, rfl⟩, _, ⟨front, formed, alone, rfl⟩, rfl⟩, _,
      ⟨exponent, formedExponent, rfl⟩, rfl⟩
    refine ⟨sign, { front with exponent }, isSign, ?_, ?_⟩
    · exact ⟨formed.whole, formed.fraction, formed.someDigit, formedExponent⟩
    · simp [Numeral.text, alone]
  · rintro ⟨sign, ⟨whole, fraction, exponent⟩, isSign, formed, rfl⟩
    have front := formed_withoutExponent formed.whole formed.fraction formed.someDigit
    exact ⟨_, ⟨_, ⟨sign, isSign, rfl⟩, _, ⟨_, front, rfl, rfl⟩, rfl⟩, _,
      ⟨exponent, formed.exponent, rfl⟩, by simp [Numeral.text]⟩

end Numeral.Pattern

end Spreadsheet

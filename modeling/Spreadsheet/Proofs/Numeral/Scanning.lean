import Spreadsheet.Proofs.Address

/-!
Numerals taken apart. A numeral that is put together from digits, a point and an exponent is well
formed when its parts hold the characters that belong there.

The main statements are that the scanner finds a well-formed numeral wherever a numeral starts, and
that it finds a given one again in front of a blank or at the end of the text. It takes the longest
numeral, so before other characters it might go on.
-/

set_option autoImplicit false

namespace Spreadsheet

open Text

structure Exponent.Formed (exponent : Exponent) : Prop where
  mark : exponent.mark ∈ ['e', 'E']
  sign : ∀ c ∈ exponent.sign, c ∈ ['+', '-']
  someDigit : exponent.digits ≠ []
  digits : ∀ c ∈ exponent.digits, c.isDigit = true

structure Numeral.Formed (numeral : Numeral) : Prop where
  whole : ∀ c ∈ numeral.whole, c.isDigit = true
  fraction : ∀ digits ∈ numeral.fraction, ∀ c ∈ digits, c.isDigit = true
  someDigit : numeral.whole ≠ [] ∨ ∃ digits ∈ numeral.fraction, digits ≠ []
  exponent : ∀ exponent ∈ numeral.exponent, exponent.Formed

theorem Numeral.formed_withoutExponent {whole : List Char} {fraction : Option (List Char)}
    (isDigit : ∀ c ∈ whole, c.isDigit = true)
    (behind : ∀ digits ∈ fraction, ∀ c ∈ digits, c.isDigit = true)
    (someDigit : whole ≠ [] ∨ ∃ digits ∈ fraction, digits ≠ []) :
    Numeral.Formed { whole, fraction, exponent := none } :=
  ⟨isDigit, behind, someDigit, fun _ absent => absurd absent (Option.not_mem_none _)⟩

theorem isDigit_of_isBlank {c : Char} (blank : isBlank c = true) : c.isDigit = false := by
  rw [← Bool.not_eq_true]
  intro digit
  cases blank.symm.trans (isBlank_of_isDigit digit)

namespace Exponent

theorem mark_of_mem : ∀ c ∈ ['e', 'E'], isBlank c = false ∧ c.isDigit = false :=
  List.forall_mem_cons.2 ⟨⟨rfl, rfl⟩, List.forall_mem_singleton.2 ⟨rfl, rfl⟩⟩

theorem scanSign_text {sign : Option Char} (isSign : ∀ c ∈ sign, c ∈ ['+', '-'])
    {digits : List Char} (someDigit : digits ≠ []) (isDigit : ∀ c ∈ digits, c.isDigit = true)
    (rest : List Char) : scanSign (sign.toList ++ (digits ++ rest)) = (sign, digits ++ rest) := by
  cases sign with
  | none =>
      obtain ⟨first, others, rfl⟩ := List.exists_cons_of_ne_nil someDigit
      have digit := isDigit first List.mem_cons_self
      have unsigned : (first = '+' || first = '-') = false := by
        rw [Bool.or_eq_false_iff, decide_eq_false_iff_not, decide_eq_false_iff_not]
        constructor <;>
        · rintro rfl
          cases digit
      exact if_neg (ne_true_of_eq_false unsigned)
  | some c =>
      have signed : (c = '+' || c = '-') = true := by
        simpa using isSign c rfl
      exact if_pos signed

theorem scan_text {exponent : Exponent} (formed : exponent.Formed) {rest : List Char}
    (stops : ∀ c ∈ rest.head?, c.isDigit = false) :
    scan (exponent.text ++ rest) = (some exponent, rest) := by
  obtain ⟨mark, sign, digits⟩ := exponent
  obtain ⟨isMark, isSign, someDigit, isDigit⟩ := formed
  dsimp only at isMark isSign someDigit isDigit
  have marked : (mark = 'e' || mark = 'E') = true := by
    simpa using isMark
  rw [text, List.cons_append, List.cons_append, List.append_assoc, scan,
    scanSign_text isSign someDigit isDigit]
  dsimp only
  rw [takeWhile_of_stop isDigit stops, dropWhile_of_stop isDigit stops, marked, Bool.true_and,
    if_pos (by simpa using someDigit)]

theorem scan_of_not_mark {rest : List Char} (noMark : ∀ c ∈ rest.head?, c ∉ ['e', 'E']) :
    scan rest = (none, rest) := by
  cases rest with
  | nil => rfl
  | cons c rest =>
      have unmarked : (c = 'e' || c = 'E') = false := by
        simpa using noMark c rfl
      rw [scan]
      dsimp only
      rw [unmarked, Bool.false_and, if_neg Bool.false_ne_true]

theorem formed_of_scan {text : List Char} {exponent : Exponent}
    (found : (scan text).1 = some exponent) : exponent.Formed := by
  cases text with
  | nil => cases found
  | cons mark rest =>
      rw [scan] at found
      dsimp only at found
      split at found
      · rename_i present
        cases found
        rw [Bool.and_eq_true] at present
        refine ⟨by simpa using present.1, ?_, by simpa using present.2,
          List.all_eq_true.1 List.all_takeWhile⟩
        intro c signed
        cases rest with
        | nil => cases signed
        | cons first others =>
            dsimp only [scanSign] at signed
            split at signed
            · rename_i isSign
              cases signed
              simpa using isSign
            · cases signed
      · cases found

/-- What an exponent that may be left out is written as. -/
abbrev part (exponent : Option Exponent) : List Char :=
  (exponent.map text).getD []

variable {exponent : Option Exponent} {rest : List Char}

theorem head_part (formed : ∀ part ∈ exponent, part.Formed)
    (ends : ∀ c ∈ rest.head?, isBlank c = true) :
    ∀ c ∈ (part exponent ++ rest).head?, c ∈ ['e', 'E'] ∨ isBlank c = true := by
  cases exponent with
  | none => exact fun c first => .inr (ends c first)
  | some exponent =>
      rintro _ ⟨⟩
      exact .inl (formed exponent rfl).mark

theorem scan_part (formed : ∀ part ∈ exponent, part.Formed)
    (ends : ∀ c ∈ rest.head?, isBlank c = true) :
    scan (part exponent ++ rest) = (exponent, rest) := by
  cases exponent with
  | none =>
      refine scan_of_not_mark fun c first mark => ?_
      cases (ends c first).symm.trans (mark_of_mem c mark).1
  | some exponent =>
      exact scan_text (formed exponent rfl) fun c first => isDigit_of_isBlank (ends c first)

end Exponent

namespace Numeral

theorem scanFraction_part {fraction : Option (List Char)} {rest : List Char}
    (isDigit : ∀ digits ∈ fraction, ∀ c ∈ digits, c.isDigit = true)
    (stops : ∀ c ∈ rest.head?, c.isDigit = false) (noPoint : '.' ∉ rest.head?) :
    scanFraction ((fraction.map ('.' :: ·)).getD [] ++ rest) = (fraction, rest) := by
  cases fraction with
  | none =>
      refine scanFraction.eq_2 _ ?_
      rintro others rfl
      exact noPoint rfl
  | some digits =>
      have all := isDigit digits rfl
      show (some ((digits ++ rest).takeWhile Char.isDigit),
        (digits ++ rest).dropWhile Char.isDigit) = _
      rw [takeWhile_of_stop all stops, dropWhile_of_stop all stops]

variable {numeral : Numeral}

theorem scan_text (formed : numeral.Formed) {rest : List Char}
    (ends : ∀ c ∈ rest.head?, isBlank c = true) :
    scan (numeral.text ++ rest) = (numeral, rest) := by
  obtain ⟨whole, fraction, exponent⟩ := numeral
  obtain ⟨isDigit, behind, -, isExponent⟩ := formed
  dsimp only at isDigit behind isExponent
  have first := Exponent.head_part isExponent ends
  have noDigit : ∀ c ∈ (Exponent.part exponent ++ rest).head?, c.isDigit = false := by
    intro c head
    rcases first c head with mark | blank
    · exact (Exponent.mark_of_mem c mark).2
    · exact isDigit_of_isBlank blank
  have noPoint : '.' ∉ (Exponent.part exponent ++ rest).head? := by
    intro head
    rcases first '.' head with mark | blank
    · revert mark
      decide
    · cases blank
  have afterWhole : ∀ c ∈ ((fraction.map ('.' :: ·)).getD [] ++
      (Exponent.part exponent ++ rest)).head?, c.isDigit = false := by
    cases fraction with
    | none => exact noDigit
    | some digits =>
        rintro _ ⟨⟩
        rfl
  rw [scan, text, List.append_assoc, List.append_assoc, takeWhile_of_stop isDigit afterWhole,
    dropWhile_of_stop isDigit afterWhole, scanFraction_part behind noDigit noPoint]
  dsimp only
  rw [Exponent.scan_part isExponent ends]

theorem scan_text_alone (formed : numeral.Formed) : scan numeral.text = (numeral, []) := by
  have scanned := scan_text formed (show ∀ c ∈ ([] : List Char).head?, isBlank c = true from nofun)
  rwa [List.append_nil] at scanned

theorem formed_scan {text : List Char} (starts : startsAt text = true) :
    (scan text).1.Formed := by
  refine ⟨List.all_eq_true.1 List.all_takeWhile, ?_, ?_, fun exponent => Exponent.formed_of_scan⟩
  · intro digits found
    dsimp only [scan] at found
    unfold scanFraction at found
    split at found
    · cases found
      exact List.all_eq_true.1 List.all_takeWhile
    · cases found
  · unfold startsAt at starts
    split at starts
    · rename_i c rest
      refine .inr ⟨(c :: rest).takeWhile Char.isDigit, rfl, ?_⟩
      rw [List.takeWhile_cons, if_pos starts]
      exact List.cons_ne_nil _ _
    · rename_i c rest _
      refine .inl ?_
      dsimp only [scan]
      rw [List.takeWhile_cons, if_pos starts]
      exact List.cons_ne_nil _ _
    · cases starts

theorem startsAt_text (formed : numeral.Formed) (rest : List Char) :
    startsAt (numeral.text ++ rest) = true := by
  obtain ⟨whole, fraction, exponent⟩ := numeral
  obtain ⟨isDigit, behind, someDigit, -⟩ := formed
  dsimp only at isDigit behind someDigit
  cases whole with
  | nil =>
      obtain ⟨digits, rfl, nonempty⟩ := someDigit.resolve_left (not_not_intro rfl)
      obtain ⟨first, others, rfl⟩ := List.exists_cons_of_ne_nil nonempty
      exact behind _ rfl first List.mem_cons_self
  | cons first others =>
      have digit := isDigit first List.mem_cons_self
      have noPoint : first ≠ '.' := by
        rintro rfl
        cases digit
      rw [text, List.cons_append, List.cons_append, List.cons_append,
        startsAt.eq_2 _ _ fun _ _ point _ => noPoint point]
      exact digit

theorem digit_or_point_of_startsAt {c : Char} {rest : List Char}
    (starts : startsAt (c :: rest) = true) : c.isDigit = true ∨ c = '.' := by
  by_cases point : c = '.'
  · exact .inr point
  · rw [startsAt.eq_2 _ _ fun _ _ same _ => point same] at starts
    exact .inl starts

theorem isBlank_of_mem_text (formed : numeral.Formed) {c : Char} (member : c ∈ numeral.text) :
    isBlank c = false := by
  obtain ⟨whole, fraction, exponent⟩ := numeral
  obtain ⟨isDigit, behind, -, isExponent⟩ := formed
  dsimp only at isDigit behind isExponent
  rw [text, List.mem_append, List.mem_append] at member
  rcases member with (inWhole | inFraction) | inExponent
  · exact isBlank_of_isDigit (isDigit c inWhole)
  · cases fraction with
    | none => cases inFraction
    | some digits =>
        rcases List.mem_cons.1 inFraction with rfl | inDigits
        · rfl
        · exact isBlank_of_isDigit (behind digits rfl c inDigits)
  · cases exponent with
    | none => cases inExponent
    | some exponent =>
        obtain ⟨isMark, isSign, -, isDigit⟩ := isExponent exponent rfl
        have sign : ∀ c ∈ ['+', '-'], isBlank c = false :=
          List.forall_mem_cons.2 ⟨rfl, List.forall_mem_singleton.2 rfl⟩
        rcases List.mem_cons.1 inExponent with rfl | inside
        · exact (Exponent.mark_of_mem _ isMark).1
        rcases List.mem_append.1 inside with inSign | inDigits
        · exact sign c (isSign c (Option.mem_toList.1 inSign))
        · exact isBlank_of_isDigit (isDigit c inDigits)

end Numeral

end Spreadsheet

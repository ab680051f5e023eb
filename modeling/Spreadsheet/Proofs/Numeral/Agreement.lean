import Spreadsheet.Proofs.Numeral.Pattern
import Spreadsheet.Proofs.Rendering
import Spreadsheet.Proofs.Trimming

/-!
Numerals in cells and in formulas. The text of a cell is matched as a whole after it was trimmed. In
a formula the scanner takes the longest numeral at the front of the text and leaves what follows to
other tokens.

The main statement is that a cell holds a number exactly when the same text as a formula is that one
number and nothing else. Signs are the exception: a cell may have one, and in a formula it is a
token of its own.
-/

set_option autoImplicit false

namespace Spreadsheet

open Text

namespace Numeral

theorem trimChars_text {numeral : Numeral} (formed : numeral.Formed) :
    trimChars numeral.text = numeral.text :=
  trimChars_eq_self (fun _ first => isBlank_of_mem_text formed (List.mem_of_head? first))
    (fun _ last => isBlank_of_mem_text formed (List.mem_of_getLast? last))

variable {source : String} {n : Number}

theorem read_eq_some_iff
    (unsigned : ∀ c ∈ (trimChars source.toList).head?, c ∉ ['+', '-']) :
    read source = some n ↔
      ∃ numeral : Numeral, numeral.Formed ∧ trimChars source.toList = numeral.text ∧
        numeral.number? false = some n := by
  have noSign : scanSign (trimChars source.toList) = (false, trimChars source.toList) := by
    refine scanSign.eq_3 _ ?_ ?_
    · intro rest same
      rw [same] at unsigned
      exact unsigned '-' rfl (by decide)
    · intro rest same
      rw [same] at unsigned
      exact unsigned '+' rfl (by decide)
  rw [read, noSign]
  dsimp only
  constructor
  · intro found
    split at found
    · rename_i starts
      split at found
      · rename_i numeral scanned
        have whole := scan_append (trimChars source.toList)
        have formed := formed_scan starts
        rw [scanned] at whole formed
        exact ⟨numeral, formed, by simpa using whole.symm, found⟩
      · cases found
    · cases found
  · rintro ⟨numeral, formed, same, value⟩
    have starts := startsAt_text formed []
    rw [List.append_nil] at starts
    rw [same, if_pos starts, scan_text_alone formed]
    exact value

end Numeral

namespace Token

theorem map_reference_ne_number {read : Outcome Reference} {n : Number}
    {following after : List Char} :
    read.map (fun target => (Token.reference target, following)) ≠ .ok (.number n, after) := by
  cases read with
  | error fault => exact nofun
  | ok target => exact nofun

theorem Scanned.exists_numeral {c : Char} {text after : List Char} {n : Number}
    (scanned : Scanned c text (.number n) after) :
    ∃ numeral : Numeral, numeral.Formed ∧ c :: text = numeral.text ++ after ∧
      numeral.number? false = some n := by
  cases scanned with
  | symbol known =>
      unfold ofChar? at known
      split at known <;> cases known
  | number _ _ starts found =>
      have joined := Numeral.scan_append (c :: text)
      have formed := Numeral.formed_scan starts
      rw [scanNumber] at found
      dsimp only at found
      split at found
      · rename_i value
        cases found
        exact ⟨_, formed, joined.symm, value⟩
      · cases found
  | bracketed _ _ _ _ found =>
      unfold scanBracketed at found
      split at found
      · cases found
      · exact absurd found map_reference_ne_number
  | word _ _ _ _ _ found =>
      unfold scanWord at found
      dsimp only at found
      split at found
      · cases found
      all_goals
        split at found
        · exact absurd found map_reference_ne_number
        · cases found

theorem Cuts.isBlank_of_nil {text : List Char} (cuts : Cuts text [] []) :
    ∀ c ∈ text, isBlank c = true := by
  generalize noTokens : ([] : List Token) = tokens at cuts
  generalize nothing : ([] : List Char) = behind at cuts
  induction cuts with
  | done text => exact nothing ▸ List.forall_mem_nil _
  | blank blank following ih => exact List.forall_mem_cons.2 ⟨blank, ih noTokens nothing⟩
  | token => cases noTokens

theorem Cuts.exists_scanned {text : List Char} {token : Token} (cuts : Cuts text [token] []) :
    ∃ front c rest after, text = front ++ c :: rest ∧ (∀ c ∈ front, isBlank c = true) ∧
      Scanned c rest token after ∧ ∀ c ∈ after, isBlank c = true := by
  generalize oneToken : [token] = tokens at cuts
  generalize nothing : ([] : List Char) = behind at cuts
  induction cuts with
  | done text => cases oneToken
  | blank blank following ih =>
      obtain ⟨front, c, rest, after, same, blankFront, found⟩ := ih oneToken nothing
      exact ⟨_ :: front, c, rest, after, congrArg _ same,
        List.forall_mem_cons.2 ⟨blank, blankFront⟩, found⟩
  | token dark scanned following ih =>
      cases oneToken
      cases nothing
      exact ⟨[], _, _, _, rfl, List.forall_mem_nil _, scanned, following.isBlank_of_nil⟩

theorem Cuts.after_blanks {front text rest : List Char} {tokens : List Token}
    (blank : ∀ c ∈ front, isBlank c = true) (cuts : Cuts text tokens rest) :
    Cuts (front ++ text) tokens rest := by
  induction front with
  | nil => exact cuts
  | cons c front ih =>
      obtain ⟨first, others⟩ := List.forall_mem_cons.1 blank
      exact .blank first (ih others)

/-- A formula is one number when its trimmed text is a numeral that has this value. -/
theorem tokenize_eq_number_iff {source : String} {n : Number} :
    tokenize source = .ok [.number n] ↔
      ∃ numeral : Numeral, numeral.Formed ∧ trimChars source.toList = numeral.text ∧
        numeral.number? false = some n := by
  rw [tokenize_eq_ok_iff]
  constructor
  · intro cuts
    obtain ⟨front, c, rest, after, same, blankFront, scanned, blankAfter⟩ := cuts.exists_scanned
    obtain ⟨numeral, formed, joined, value⟩ := scanned.exists_numeral
    refine ⟨numeral, formed, ?_, value⟩
    rw [same, joined, ← List.append_assoc, trimChars_between blankFront blankAfter,
      Numeral.trimChars_text formed]
  · rintro ⟨numeral, formed, same, value⟩
    obtain ⟨front, back, blankFront, blankBack, joined⟩ := exists_blanks_around source.toList
    have ends : Ends back := fun c first => blankBack c (List.mem_of_head? first)
    obtain ⟨c, text, first, dark, scanned⟩ := scanned_numeral formed value ends
    have behind : Cuts back [] [] := by
      have cuts := Cuts.after_blanks blankBack (.done [])
      rwa [List.append_nil] at cuts
    rw [joined, same, List.append_assoc, first]
    exact .after_blanks blankFront (.token dark scanned behind)

end Token

namespace Numeral

/-- Cells and formulas have the same numerals. A text without a sign in front is the number of a
cell exactly when, as a formula, it is the token of this number alone; and what decides in both is
whether the regular expression matches the trimmed text and what the matched numeral is worth. -/
theorem read_iff_tokenize {source : String}
    (unsigned : ∀ c ∈ (trimChars source.toList).head?, c ∉ ['+', '-']) (n : Number) :
    (read source = some n ↔ Token.tokenize source = .ok [.number n]) ∧
      (read source = some n ↔ trimChars source.toList ∈ Pattern.literal.matches' ∧
        (scan (trimChars source.toList)).1.number? false = some n) := by
  refine ⟨(read_eq_some_iff unsigned).trans Token.tokenize_eq_number_iff.symm, ?_⟩
  rw [read_eq_some_iff unsigned, Pattern.mem_literal]
  constructor
  · rintro ⟨numeral, formed, same, value⟩
    rw [same, scan_text_alone formed]
    exact ⟨⟨none, numeral, nofun, formed, rfl⟩, value⟩
  · rintro ⟨⟨sign, numeral, isSign, formed, same⟩, value⟩
    cases sign with
    | some c =>
        rw [same] at unsigned
        exact absurd (isSign c rfl) (unsigned c rfl)
    | none =>
        rw [same] at value ⊢
        rw [Option.toList_none, List.nil_append, scan_text_alone formed] at value
        exact ⟨numeral, formed, rfl, value⟩

/-- A numeral with blanks around it that has no digit before its point. -/
theorem read_iff_tokenize_spacedNumeral :
    (∀ c ∈ (trimChars "\t.5E+1 ".toList).head?, c ∉ ['+', '-']) ∧
      read "\t.5E+1 " = some (.float 5.0) ∧
      Token.tokenize "\t.5E+1 " = .ok [.number (.float 5.0)] ∧
      trimChars "\t.5E+1 ".toList ∈ Pattern.literal.matches' := by
  have first : (trimChars "\t.5E+1 ".toList).head? = some '.' := by decide
  have unsigned : ∀ c ∈ (trimChars "\t.5E+1 ".toList).head?, c ∉ ['+', '-'] := by
    rw [first]
    rintro _ ⟨⟩
    decide
  have held : read "\t.5E+1 " = some (.float 5.0) := by decide +kernel
  have both := read_iff_tokenize unsigned (.float 5.0)
  exact ⟨unsigned, held, both.1.1 held, (both.2.1 held).1⟩

end Numeral

end Spreadsheet

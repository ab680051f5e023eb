import Spreadsheet.Program.Parser

/-!
Cutting texts that were put together. How a text is cut into tokens depends on what follows it: a
word goes on in the next characters, and a quote after a text constant is part of it. An ampersand
goes on with no token. So a text that can be cut is cut in the same way when an ampersand and
anything else follow it.

Cutting is stated as a relation between a text, its first tokens and the text that follows them,
with the characters that follow in place, so that no token can be cut short where two texts meet.
The main statement is that the tokens of a text are found again before an ampersand.
-/

set_option autoImplicit false

namespace Spreadsheet

open Text

section Before

variable {p : Char → Bool} (stops : p '&' = false) (text rest : List Char)

include stops

theorem takeWhile_before : (text ++ '&' :: rest).takeWhile p = text.takeWhile p := by
  induction text with
  | nil => rw [List.nil_append, List.takeWhile_cons, stops]; rfl
  | cons c text ih =>
      rw [List.cons_append, List.takeWhile_cons, List.takeWhile_cons, ih]

theorem dropWhile_before : (text ++ '&' :: rest).dropWhile p = text.dropWhile p ++ '&' :: rest := by
  induction text with
  | nil => rw [List.nil_append, List.dropWhile_cons, stops]; rfl
  | cons c text ih =>
      rw [List.cons_append, List.dropWhile_cons, List.dropWhile_cons, ih]
      split <;> rfl

end Before

namespace Exponent

theorem scanSign_before (text rest : List Char) :
    scanSign (text ++ '&' :: rest) = ((scanSign text).1, (scanSign text).2 ++ '&' :: rest) := by
  cases text with
  | nil => rfl
  | cons c text =>
      rw [List.cons_append, scanSign, scanSign]
      split <;> rfl

theorem scan_before (text rest : List Char) :
    scan (text ++ '&' :: rest) = ((scan text).1, (scan text).2 ++ '&' :: rest) := by
  cases text with
  | nil => rfl
  | cons mark text =>
      simp only [List.cons_append, scan, scanSign_before, takeWhile_before (p := Char.isDigit) rfl,
        dropWhile_before (p := Char.isDigit) rfl]
      split <;> rfl

end Exponent

namespace Numeral

theorem scanFraction_before (text rest : List Char) :
    scanFraction (text ++ '&' :: rest) =
      ((scanFraction text).1, (scanFraction text).2 ++ '&' :: rest) := by
  cases text with
  | nil => rfl
  | cons c text =>
      rw [List.cons_append]
      by_cases point : c = '.'
      · rw [point, scanFraction, scanFraction, takeWhile_before rfl, dropWhile_before rfl]
      · rw [scanFraction.eq_2 _ (by simpa using point), scanFraction.eq_2 _ (by simpa using point)]
        rfl

theorem scan_before (text rest : List Char) :
    scan (text ++ '&' :: rest) = ((scan text).1, (scan text).2 ++ '&' :: rest) := by
  simp only [scan, takeWhile_before (p := Char.isDigit) rfl,
    dropWhile_before (p := Char.isDigit) rfl, scanFraction_before, Exponent.scan_before]

theorem startsAt_before (c : Char) (text rest : List Char) :
    startsAt (c :: (text ++ '&' :: rest)) = startsAt (c :: text) := by
  by_cases point : c = '.'
  · rw [point]
    cases text <;> rfl
  · rw [startsAt.eq_2 _ _ (fun _ _ dot _ => point dot),
      startsAt.eq_2 _ _ (fun _ _ dot _ => point dot)]

end Numeral

namespace Token

theorem scanText_before {text content after : List Char}
    (scanned : scanText text = some (content, after)) (rest : List Char) :
    scanText (text ++ '&' :: rest) = some (content, after ++ '&' :: rest) := by
  fun_induction scanText text generalizing content after with
  | case1 => cases scanned
  | case2 following ih =>
      obtain ⟨⟨inner, behind⟩, found, same⟩ := Option.map_eq_some_iff.1 scanned
      cases same
      rw [List.cons_append, List.cons_append, scanText, ih found]
      rfl
  | case3 following single =>
      cases scanned
      cases following with
      | nil => rfl
      | cons c following =>
          rw [List.cons_append, List.cons_append, scanText.eq_3 _ ?_]
          rintro others ⟨⟩
          exact single following rfl
  | case4 c following doubled closing ih =>
      obtain ⟨⟨inner, behind⟩, found, same⟩ := Option.map_eq_some_iff.1 scanned
      cases same
      rw [List.cons_append, scanText.eq_4 _ _ ?_ ?_, ih found]
      · rfl
      · rintro others rfl _
        exact closing rfl
      · exact closing

theorem map_reference_append {read : Outcome Reference} {following after : List Char}
    {token : Token}
    (found : read.map (fun target => (Token.reference target, following)) = .ok (token, after))
    (more : List Char) :
    read.map (fun target => (Token.reference target, following ++ more)) =
      .ok (token, after ++ more) := by
  cases read with
  | error fault => cases found
  | ok target => cases found; rfl

theorem scanBracketed_before {text after : List Char} {token : Token}
    (scanned : scanBracketed text = .ok (token, after)) (rest : List Char) :
    scanBracketed (text ++ '&' :: rest) = .ok (token, after ++ '&' :: rest) := by
  unfold scanBracketed at scanned
  split at scanned
  · cases scanned
  · rename_i inside following cut
    obtain ⟨joined, absent⟩ := cutAt_eq_some_iff.1 cut
    have again : cutAt ']' (text ++ '&' :: rest) = some (inside, following ++ '&' :: rest) :=
      cutAt_eq_some_iff.2 ⟨by rw [joined, List.append_assoc]; rfl, absent⟩
    rw [scanBracketed, again]
    exact map_reference_append scanned _

theorem scanWord_before {text after : List Char} {token : Token}
    (scanned : scanWord text = .ok (token, after)) (rest : List Char) :
    scanWord (text ++ '&' :: rest) = .ok (token, after ++ '&' :: rest) := by
  unfold scanWord at scanned ⊢
  rw [takeWhile_before rfl, dropWhile_before rfl]
  generalize text.takeWhile isWordChar = word at scanned ⊢
  generalize text.dropWhile isWordChar = behind at scanned ⊢
  dsimp only at scanned ⊢
  split at scanned
  · cases scanned
    rfl
  · rename_i following
    rw [List.cons_append]
    show (if isAddressShaped word = true then _ else _) = _
    split at scanned
    · rename_i shaped
      rw [if_pos shaped, takeWhile_before rfl, dropWhile_before rfl]
      exact map_reference_append scanned _
    · rename_i unshaped
      rw [if_neg unshaped]
      cases scanned
      rfl
  · rename_i noCall noBlock
    split
    · rename_i after same
      cases behind with
      | nil => cases same
      | cons c others => cases same; exact (noCall _ rfl).elim
    · rename_i after same
      cases behind with
      | nil => cases same
      | cons c others => cases same; exact (noBlock _ rfl).elim
    · split at scanned
      · rename_i shaped
        rw [if_pos shaped]
        exact map_reference_append scanned _
      · rename_i unshaped
        rw [if_neg unshaped]
        cases scanned
        rfl

theorem scanNumber_before {text after : List Char} {token : Token}
    (scanned : scanNumber text = .ok (token, after)) (rest : List Char) :
    scanNumber (text ++ '&' :: rest) = .ok (token, after ++ '&' :: rest) := by
  rw [scanNumber] at scanned ⊢
  rw [Numeral.scan_before]
  dsimp only at scanned ⊢
  split at scanned
  · rename_i n read
    cases scanned
    rfl
  · cases scanned

/-- The token that starts with a character, and the text that follows the token. Which kind of token
it is depends on the character alone, except that a point may start a number. -/
inductive Scanned (c : Char) (text : List Char) : Token → List Char → Prop
  | symbol {token : Token} (known : ofChar? c = some token) : Scanned c text token text
  | text {content after : List Char} (unknown : ofChar? c = none) (quote : c = '"')
      (found : scanText text = some (content, after)) :
      Scanned c text (.text (String.ofList content)) after
  | number {token : Token} {after : List Char} (unknown : ofChar? c = none) (noQuote : c ≠ '"')
      (starts : Numeral.startsAt (c :: text) = true)
      (found : scanNumber (c :: text) = .ok (token, after)) : Scanned c text token after
  | bracketed {token : Token} {after : List Char} (unknown : ofChar? c = none) (noQuote : c ≠ '"')
      (noNumeral : ¬ Numeral.startsAt (c :: text) = true) (bracket : c = '[')
      (found : scanBracketed text = .ok (token, after)) : Scanned c text token after
  | word {token : Token} {after : List Char} (unknown : ofChar? c = none) (noQuote : c ≠ '"')
      (noNumeral : ¬ Numeral.startsAt (c :: text) = true) (noBracket : c ≠ '[')
      (letter : (c.isAlpha || c = '_') = true) (found : scanWord (c :: text) = .ok (token, after)) :
      Scanned c text token after

/-- The length of the formula matters only to the errors of the scanner. -/
theorem scan_eq_ok_iff {size : Nat} {c : Char} {text after : List Char} {token : Token} :
    scan size c text = .ok (token, after) ↔ Scanned c text token after := by
  constructor
  · intro found
    unfold scan at found
    split at found
    · rename_i known
      cases found
      exact .symbol known
    rename_i unknown
    split at found
    · rename_i quote
      split at found
      · rename_i inside
        cases found
        exact .text unknown quote inside
      · cases found
    rename_i noQuote
    split at found
    · rename_i starts
      exact .number unknown noQuote starts found
    rename_i noNumeral
    split at found
    · rename_i bracket
      exact .bracketed unknown noQuote noNumeral bracket found
    rename_i noBracket
    split at found
    · rename_i letter
      exact .word unknown noQuote noNumeral noBracket letter found
    split at found <;> cases found
  · intro scanned
    cases scanned with
    | symbol known => simp only [scan, known]
    | text unknown quote found => simp only [scan, unknown, if_pos quote, found]
    | number unknown noQuote starts found =>
        simp only [scan, unknown, if_neg noQuote, if_pos starts, found]
    | bracketed unknown noQuote noNumeral bracket found =>
        simp only [scan, unknown, if_neg noQuote, if_neg noNumeral, if_pos bracket, found]
    | word unknown noQuote noNumeral noBracket letter found =>
        simp only [scan, unknown, if_neg noQuote, if_neg noNumeral, if_neg noBracket,
          if_pos letter, found]

theorem Scanned.before {c : Char} {text after : List Char} {token : Token}
    (scanned : Scanned c text token after) (rest : List Char) :
    Scanned c (text ++ '&' :: rest) token (after ++ '&' :: rest) := by
  have same := Numeral.startsAt_before c text rest
  cases scanned with
  | symbol known => exact .symbol known
  | text unknown quote found => exact .text unknown quote (scanText_before found rest)
  | number unknown noQuote starts found =>
      exact .number unknown noQuote (same.trans starts) (scanNumber_before found rest)
  | bracketed unknown noQuote noNumeral bracket found =>
      exact .bracketed unknown noQuote (same ▸ noNumeral) bracket (scanBracketed_before found rest)
  | word unknown noQuote noNumeral noBracket letter found =>
      exact .word unknown noQuote (same ▸ noNumeral) noBracket letter (scanWord_before found rest)

/-- The first tokens of a text, and the text that follows them. -/
inductive Cuts : List Char → List Token → List Char → Prop
  | done (text : List Char) : Cuts text [] text
  | blank {c : Char} {text rest : List Char} {tokens : List Token} (blank : isBlank c = true)
      (following : Cuts text tokens rest) : Cuts (c :: text) tokens rest
  | token {c : Char} {text after rest : List Char} {token : Token} {tokens : List Token}
      (dark : isBlank c = false) (scanned : Scanned c text token after)
      (following : Cuts after tokens rest) : Cuts (c :: text) (token :: tokens) rest

theorem Cuts.append {text between rest : List Char} {first second : List Token}
    (front : Cuts text first between) (back : Cuts between second rest) :
    Cuts text (first ++ second) rest := by
  induction front with
  | done text => exact back
  | blank blank following ih => exact .blank blank (ih back)
  | token dark scanned following ih => exact .token dark scanned (ih back)

/-- A text that can be cut completely is cut in the same way before an ampersand. -/
theorem Cuts.before {text : List Char} {tokens : List Token} (cuts : Cuts text tokens [])
    (rest : List Char) : Cuts (text ++ '&' :: rest) tokens ('&' :: rest) := by
  generalize nothing : ([] : List Char) = behind at cuts
  induction cuts with
  | done text => rw [← nothing]; exact .done _
  | blank blank following ih => exact .blank blank (ih nothing)
  | token dark scanned following ih =>
      exact .token dark (scanned.before rest) (ih nothing)

theorem cuts_ampersand (rest : List Char) : Cuts ('&' :: rest) [.operator .concat] rest :=
  .token (by decide) (.symbol rfl) (.done rest)

theorem Cuts.of_skipBlanks {text rest : List Char} {tokens : List Token}
    (cuts : Cuts (skipBlanks text) tokens rest) : Cuts text tokens rest := by
  induction text with
  | nil => exact cuts
  | cons c text ih =>
      rw [skipBlanks, List.dropWhile_cons] at cuts
      split at cuts
      · rename_i blank
        exact .blank blank (ih cuts)
      · exact cuts

theorem cuts_of_scanAll {size : Nat} {text : List Char} {tokens : List Token}
    (scanned : scanAll size text = .ok tokens) : Cuts text tokens [] := by
  fun_induction scanAll size text generalizing tokens with
  | case1 text nothing =>
      cases scanned
      apply Cuts.of_skipBlanks
      rw [nothing]
      exact .done []
  | case2 => cases scanned
  | case3 => cases scanned
  | case4 text c rest found token after first others following ih =>
      cases scanned
      apply Cuts.of_skipBlanks
      rw [found]
      exact .token (isBlank_head_skipBlanks found) (scan_eq_ok_iff.1 first) (ih following)

theorem scanAll_cons_blank {size : Nat} {c : Char} {text : List Char}
    (blank : isBlank c = true) : scanAll size (c :: text) = scanAll size text := by
  have same : skipBlanks (c :: text) = skipBlanks text := by
    rw [skipBlanks, List.dropWhile_cons, if_pos blank]
    rfl
  rw [scanAll.eq_def, scanAll.eq_def, same]

theorem scanAll_of_cuts {text : List Char} {tokens : List Token} (cuts : Cuts text tokens [])
    (size : Nat) : scanAll size text = .ok tokens := by
  generalize nothing : ([] : List Char) = behind at cuts
  induction cuts with
  | done text =>
      rw [← nothing, scanAll.eq_def]
      rfl
  | blank blank following ih => rw [scanAll_cons_blank blank, ih nothing]
  | token dark scanned following ih =>
      rw [scanAll.eq_def, skipBlanks_of_head dark]
      dsimp only
      split
      · rename_i failed
        rw [scan_eq_ok_iff.2 scanned] at failed
        cases failed
      · rename_i found
        rw [scan_eq_ok_iff.2 scanned] at found
        cases found
        rw [ih nothing]

theorem tokenize_eq_ok_iff {formula : String} {tokens : List Token} :
    tokenize formula = .ok tokens ↔ Cuts formula.toList tokens [] :=
  ⟨cuts_of_scanAll, fun cuts => scanAll_of_cuts cuts _⟩

end Token

end Spreadsheet

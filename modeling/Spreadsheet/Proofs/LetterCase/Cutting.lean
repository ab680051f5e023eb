import Spreadsheet.Proofs.Interpolation.Plain
import Spreadsheet.Proofs.LetterCase

/-!
Cutting a formula in either case. A text constant keeps its case and everything outside of text
constants may change it. So a formula is put into capitals outside of its quotes; formulas that
become the same differ in the case of letters outside of text constants and in nothing else.

What stands outside is decided from the text alone, by its quotes. The cutter decides it token by
token, and the two agree wherever it succeeds, because no token but a text constant has a quote in
it. The main statement is that the capitals are cut into the same tokens, names in capitals, or are
refused as the formula is.
-/

set_option autoImplicit false

namespace Spreadsheet

open Text

namespace Text

/-- Capitals outside of text constants. A quote that no other one follows opens nothing. -/
def upperOutside (quoted : Bool) : List Char → List Char
  | [] => []
  | c :: rest =>
      if c = '"' then c :: upperOutside (!quoted && rest.contains '"') rest
      else (if quoted then c else c.toUpper) :: upperOutside quoted rest

example : upperOutside false "a\"b\"c\"d".toList = "A\"b\"C\"D".toList := by decide

theorem upperChars_upperOutside (quoted : Bool) (text : List Char) :
    upperChars (upperOutside quoted text) = upperChars text := by
  induction text generalizing quoted with
  | nil => rfl
  | cons c rest ih =>
      rw [upperOutside]
      split
      · exact congrArg (c.toUpper :: ·) (ih _)
      · cases quoted with
        | false => exact congrArg₂ List.cons (toUpper_toUpper c) (ih _)
        | true => exact congrArg (c.toUpper :: ·) (ih _)

theorem apply_upperOutside {α : Type} {f : List Char → α}
    (blind : ∀ text, f (upperChars text) = f text) (quoted : Bool) (text : List Char) :
    f (upperOutside quoted text) = f text := by
  rw [← blind, upperChars_upperOutside, blind]

theorem upperOutside_quote (rest : List Char) :
    upperOutside false ('"' :: rest) = '"' :: upperOutside (rest.contains '"') rest := by
  rw [upperOutside, if_pos rfl]
  rfl

theorem upperOutside_other {c : Char} (noQuote : c ≠ '"') (rest : List Char) :
    upperOutside false (c :: rest) = c.toUpper :: upperOutside false rest := by
  rw [upperOutside, if_neg noQuote]
  rfl

theorem upperOutside_cons (c : Char) (rest : List Char) :
    ∃ quoted, upperOutside false (c :: rest) = c.toUpper :: upperOutside quoted rest := by
  by_cases quote : c = '"'
  · rw [quote, upperOutside_quote]
    exact ⟨_, rfl⟩
  · exact ⟨_, upperOutside_other quote rest⟩

theorem cons_of_upperOutside {c : Char} {text rest : List Char} (other : c.isAlpha = false)
    (same : upperOutside false text = c :: rest) : ∃ after, text = c :: after := by
  cases text with
  | nil => cases same
  | cons first after =>
      obtain ⟨quoted, capital⟩ := upperOutside_cons first after
      rw [capital] at same
      exact ⟨after, congrArg (· :: after) ((toUpper_eq_iff other).1 (List.cons.inj same).1)⟩

theorem upperOutside_append {front : List Char} (noQuote : '"' ∉ front) (rest : List Char) :
    upperOutside false (front ++ rest) = upperChars front ++ upperOutside false rest := by
  induction front with
  | nil => rfl
  | cons c front ih =>
      obtain ⟨first, others⟩ := not_or.1 (mt List.mem_cons.2 noQuote)
      rw [List.cons_append, upperOutside_other (Ne.symm first), ih others]
      rfl

section Classes

variable {p : Char → Bool} (blind : ∀ c, p c.toUpper = p c) (quote : p '"' = false)

include quote in
theorem upperOutside_member {c : Char} (holds : p c = true) (rest : List Char) :
    upperOutside false (c :: rest) = c.toUpper :: upperOutside false rest := by
  refine upperOutside_other ?_ rest
  rintro rfl
  cases quote.symm.trans holds

variable (text : List Char)

include blind quote

theorem takeWhile_upperOutside :
    (upperOutside false text).takeWhile p = upperChars (text.takeWhile p) := by
  induction text with
  | nil => rfl
  | cons c rest ih =>
      cases holds : p c with
      | true =>
          rw [upperOutside_member quote holds, List.takeWhile_cons_of_pos ((blind c).trans holds),
            ih, List.takeWhile_cons_of_pos holds]
          rfl
      | false =>
          obtain ⟨quoted, same⟩ := upperOutside_cons c rest
          rw [same, List.takeWhile_cons, blind, List.takeWhile_cons, holds]
          rfl

theorem dropWhile_upperOutside :
    (upperOutside false text).dropWhile p = upperOutside false (text.dropWhile p) := by
  induction text with
  | nil => rfl
  | cons c rest ih =>
      cases holds : p c with
      | true =>
          rw [upperOutside_member quote holds, List.dropWhile_cons_of_pos ((blind c).trans holds),
            ih, List.dropWhile_cons_of_pos holds]
      | false =>
          obtain ⟨quoted, same⟩ := upperOutside_cons c rest
          rw [List.dropWhile_cons, holds, same, List.dropWhile_cons, blind, holds]
          exact same.symm

end Classes

theorem takeWhile_isDigit_upperOutside (text : List Char) :
    (upperOutside false text).takeWhile Char.isDigit = text.takeWhile Char.isDigit := by
  rw [takeWhile_upperOutside isDigit_toUpper rfl,
    upperChars_digits (List.all_eq_true.1 List.all_takeWhile)]

theorem dropWhile_isDigit_upperOutside (text : List Char) :
    (upperOutside false text).dropWhile Char.isDigit =
      upperOutside false (text.dropWhile Char.isDigit) :=
  dropWhile_upperOutside isDigit_toUpper rfl text

end Text

theorem hasAdjacentReferences_upperChars (text : List Char) :
    hasAdjacentReferences (upperChars text) = hasAdjacentReferences text := by
  fun_induction hasAdjacentReferences text with
  | case1 rest => rfl
  | case2 c rest notAdjacent ih =>
      rw [← ih]
      refine hasAdjacentReferences.eq_2 _ _ fun tail closing opening => ?_
      cases rest with
      | nil => cases opening
      | cons second others =>
          obtain ⟨bracket, -⟩ := List.cons.inj opening
          rw [(toUpper_eq_iff rfl).1 bracket] at notAdjacent
          exact notAdjacent others ((toUpper_eq_iff rfl).1 closing) rfl
  | case3 => rfl

namespace Reference

theorem alike_parse {text other : List Char} (same : upperChars text = upperChars other) :
    Outcome.AlikeUnder id (parse (String.ofList text)) (parse (String.ofList other)) := by
  have left := parse_upperChars text
  rw [same] at left
  refine (left.join (parse_upperChars other)).imp ?_
  rintro target twin ⟨common, rfl, equal⟩
  exact equal.symm

end Reference

namespace Exponent

def upper (exponent : Exponent) : Exponent :=
  { exponent with mark := exponent.mark.toUpper }

theorem isMark_toUpper (c : Char) :
    (decide (c.toUpper = 'e') || decide (c.toUpper = 'E')) =
      (decide (c = 'e') || decide (c = 'E')) := by
  have mark : c.toUpper = 'e' ∨ c.toUpper = 'E' ↔ c = 'e' ∨ c = 'E' := by
    simp only [← Char.toNat_inj, toNat_toUpper]
    show _ = 101 ∨ _ = 69 ↔ _ = 101 ∨ _ = 69
    split <;> omega
  rw [← Bool.decide_or, ← Bool.decide_or]
  exact decide_eq_decide.2 mark

theorem scanSign_upperOutside (text : List Char) :
    scanSign (upperOutside false text) =
      ((scanSign text).1, upperOutside false (scanSign text).2) := by
  cases text with
  | nil => rfl
  | cons c rest =>
      by_cases sign : c = '+' ∨ c = '-'
      · rcases sign with rfl | rfl
        · rw [upperOutside_other (by decide)]
          rfl
        · rw [upperOutside_other (by decide)]
          rfl
      · have noSign : ¬ (c.toUpper = '+' ∨ c.toUpper = '-') := by
          rwa [toUpper_eq_iff rfl, toUpper_eq_iff rfl]
        obtain ⟨quoted, same⟩ := upperOutside_cons c rest
        rw [same, scanSign, scanSign, if_neg (by simpa using noSign), if_neg (by simpa using sign),
          same]

theorem scan_upperOutside (text : List Char) :
    scan (upperOutside false text) =
      ((scan text).1.map upper, upperOutside false (scan text).2) := by
  cases text with
  | nil => rfl
  | cons c rest =>
      cases mark : decide (c = 'e') || decide (c = 'E') with
      | true =>
          have noQuote : c ≠ '"' := by rintro rfl; cases mark
          simp only [upperOutside_other noQuote, scan, scanSign_upperOutside, isMark_toUpper,
            takeWhile_isDigit_upperOutside, dropWhile_isDigit_upperOutside]
          split
          · rfl
          · rw [upperOutside_other noQuote]
            rfl
      | false =>
          obtain ⟨quoted, same⟩ := upperOutside_cons c rest
          simp only [same, scan, isMark_toUpper, mark, Bool.false_and]
          show (none, c.toUpper :: upperOutside quoted rest) =
            (none, upperOutside false (c :: rest))
          rw [same]

end Exponent

namespace Numeral

def upper (numeral : Numeral) : Numeral :=
  { numeral with exponent := numeral.exponent.map Exponent.upper }

theorem number?_upper (negative : Bool) (numeral : Numeral) :
    numeral.upper.number? negative = numeral.number? negative := by
  obtain ⟨whole, fraction, exponent⟩ := numeral
  cases exponent <;> rfl

theorem startsAt_upperChars (text : List Char) : startsAt (upperChars text) = startsAt text := by
  cases text with
  | nil => rfl
  | cons c rest =>
      by_cases point : c = '.'
      · rw [point]
        cases rest with
        | nil => rfl
        | cons d rest => exact isDigit_toUpper d
      · have noPoint : c.toUpper ≠ '.' := toUpper_ne rfl point
        rw [upperChars, List.map_cons, startsAt.eq_2 _ _ fun _ _ dot _ => noPoint dot,
          startsAt.eq_2 _ _ fun _ _ dot _ => point dot, isDigit_toUpper]

theorem scanFraction_upperOutside (text : List Char) :
    scanFraction (upperOutside false text) =
      ((scanFraction text).1, upperOutside false (scanFraction text).2) := by
  cases text with
  | nil => rfl
  | cons c rest =>
      by_cases point : c = '.'
      · rw [point, upperOutside_other (by decide)]
        show (some ((upperOutside false rest).takeWhile Char.isDigit),
          (upperOutside false rest).dropWhile Char.isDigit) = _
        rw [takeWhile_isDigit_upperOutside, dropWhile_isDigit_upperOutside]
        rfl
      · have noPoint : c.toUpper ≠ '.' := toUpper_ne rfl point
        obtain ⟨quoted, same⟩ := upperOutside_cons c rest
        rw [same, scanFraction.eq_2 _ (by simpa using noPoint),
          scanFraction.eq_2 _ (by simpa using point), same]

theorem scan_upperOutside (text : List Char) :
    scan (upperOutside false text) = ((scan text).1.upper, upperOutside false (scan text).2) := by
  simp only [scan, takeWhile_isDigit_upperOutside, dropWhile_isDigit_upperOutside,
    scanFraction_upperOutside, Exponent.scan_upperOutside]
  rfl

end Numeral

namespace Token

def upper : Token → Token
  | .name given => .name (Text.upper given)
  | .function given => .function (Text.upper given)
  | token => token

def upperScanned (scanned : Token × List Char) : Token × List Char :=
  (scanned.1.upper, upperOutside false scanned.2)

theorem scanText_eq_none {text : List Char} (noQuote : '"' ∉ text) : scanText text = none := by
  induction text with
  | nil => rfl
  | cons c rest ih =>
      obtain ⟨first, others⟩ := not_or.1 (mt List.mem_cons.2 noQuote)
      rw [scanText.eq_4 _ _ (fun _ same _ => first same.symm) (Ne.symm first), ih others]
      rfl

/-- A text constant keeps its characters, and the capitals go on behind its last quote. -/
theorem scanText_upperOutside (text : List Char) :
    scanText (upperOutside (text.contains '"') text) =
      (scanText text).map fun scanned => (scanned.1, upperOutside false scanned.2) := by
  fun_induction scanText text with
  | case1 => rfl
  | case2 rest ih =>
      have doubled : upperOutside (('"' :: '"' :: rest).contains '"') ('"' :: '"' :: rest) =
          '"' :: '"' :: upperOutside (rest.contains '"') rest := by
        rw [← upperOutside_quote]
        rfl
      rw [doubled, scanText, ih, Option.map_map, Option.map_map]
      rfl
  | case3 rest single =>
      have closing : upperOutside (('"' :: rest).contains '"') ('"' :: rest) =
          '"' :: upperOutside false rest := rfl
      rw [closing, scanText.eq_3]
      · rfl
      · intro others same
        obtain ⟨after, opening⟩ := cons_of_upperOutside rfl same
        exact single after opening
  | case4 c rest _ other ih =>
      have same : (c :: rest).contains '"' = rest.contains '"' := by
        rw [List.contains_cons, beq_false_of_ne (Ne.symm other), Bool.false_or]
      rw [same]
      cases closed : rest.contains '"' with
      | true =>
          have kept : upperOutside true (c :: rest) = c :: upperOutside true rest := by
            rw [upperOutside, if_neg other]
            rfl
          rw [closed] at ih
          rw [kept, scanText.eq_4 _ _ (fun _ quote _ => other quote) other, ih, Option.map_map,
            Option.map_map]
          rfl
      | false =>
          have noQuote : '"' ∉ rest := by simpa using closed
          have capital : c.toUpper ≠ '"' := toUpper_ne rfl other
          rw [closed] at ih
          rw [upperOutside_other other,
            scanText.eq_4 _ _ (fun _ quote _ => capital quote) capital, ih,
            scanText_eq_none noQuote]
          rfl

theorem scanNumber_upperOutside (text : List Char) :
    Outcome.AlikeUnder upperScanned (scanNumber text) (scanNumber (upperOutside false text)) := by
  rw [scanNumber, scanNumber, Numeral.scan_upperOutside]
  dsimp only
  rw [Numeral.number?_upper]
  cases (Numeral.scan text).1.number? false with
  | none => exact .error rfl
  | some n => exact .ok rfl

theorem scanBracketed_upperOutside (text : List Char) :
    Outcome.AlikeUnder upperScanned (scanBracketed text)
      (scanBracketed (upperOutside false text)) := by
  have cuts : (cutAt ']' (upperOutside false text)).map (fun parts => upperChars parts.1) =
      (cutAt ']' text).map fun parts => upperChars parts.1 := by
    refine apply_upperOutside (f := fun text => (cutAt ']' text).map (upperChars ·.1))
      (fun text => ?_) false text
    rw [cutAt_upperChars rfl, Option.map_map]
    exact congrArg (Option.map · _) (funext fun parts => upperChars_upperChars _)
  unfold scanBracketed
  cases cut : cutAt ']' text with
  | none =>
      rw [cut] at cuts
      rw [Option.map_eq_none_iff.1 cuts]
      exact .error rfl
  | some parts =>
      obtain ⟨inside, after⟩ := parts
      rw [cut] at cuts
      obtain ⟨⟨inside', after'⟩, cut', sameInside⟩ := Option.map_eq_some_iff.1 cuts
      rw [cut']
      have sameWhole :
          upperChars ('[' :: inside ++ [']']) = upperChars ('[' :: inside' ++ [']']) := by
        simp only [upperChars, List.map_append, List.map_cons] at sameInside ⊢
        rw [sameInside]
      refine (Reference.alike_parse sameWhole).map ?_
      rintro target _ read rfl
      obtain ⟨joined, absent⟩ := cutAt_eq_some_iff.1 cut
      have noQuote : '"' ∉ inside := fun quote =>
        (Interpolation.inert_of_parse read '"' (by simp [quote])).2 rfl
      have again : cutAt ']' (upperOutside false text) =
          some (upperChars inside, upperOutside false after) := by
        refine cutAt_eq_some_iff.2 ⟨?_, mt (mem_upperChars rfl inside).1 absent⟩
        rw [joined, upperOutside_append noQuote, upperOutside_other (by decide)]
        rfl
      rw [again] at cut'
      cases cut'
      rfl

theorem scanWord_alone {text behind : List Char} (ends : text.dropWhile isWordChar = behind)
    (noCall : ∀ after, behind ≠ '(' :: after) (noBlock : ∀ after, behind ≠ ':' :: after) :
    scanWord text =
      if isAddressShaped (text.takeWhile isWordChar) then
        (Reference.parse (String.ofList (text.takeWhile isWordChar))).map
          fun reference => (.reference reference, behind)
      else .ok (.name (String.ofList (text.takeWhile isWordChar)), behind) := by
  rw [scanWord, ends]
  split
  · exact (noCall _ rfl).elim
  · exact (noBlock _ rfl).elim
  · rfl

theorem scanWord_upperOutside (text : List Char) :
    Outcome.AlikeUnder upperScanned (scanWord text) (scanWord (upperOutside false text)) := by
  have taken := takeWhile_upperOutside isWordChar_toUpper rfl text
  have dropped := dropWhile_upperOutside isWordChar_toUpper rfl text
  have shape := isAddressShaped_upperChars (text.takeWhile isWordChar)
  have named (after : List Char) :
      (.name (String.ofList (upperChars (text.takeWhile isWordChar))), upperOutside false after) =
        upperScanned (.name (String.ofList (text.takeWhile isWordChar)), after) := by
    rw [← upper_ofList]
    rfl
  by_cases call : ∃ after, text.dropWhile isWordChar = '(' :: after
  · obtain ⟨after, ends⟩ := call
    rw [ends, upperOutside_other (by decide)] at dropped
    rw [scanWord, scanWord, taken, dropped, ends]
    refine .ok ?_
    rw [← upper_ofList]
    rfl
  by_cases block : ∃ after, text.dropWhile isWordChar = ':' :: after
  · obtain ⟨after, ends⟩ := block
    rw [ends, upperOutside_other (by decide)] at dropped
    rw [scanWord, scanWord, taken, dropped, ends]
    show Outcome.AlikeUnder _ (if _ then _ else _) (if isAddressShaped (upperChars _) then _ else _)
    rw [shape, takeWhile_upperOutside isWordChar_toUpper rfl,
      dropWhile_upperOutside isWordChar_toUpper rfl]
    split
    · have whole (word other : List Char) :
          upperChars word ++ ':' :: upperChars other = upperChars (word ++ ':' :: other) := by
        rw [upperChars, upperChars, upperChars, List.map_append]
        rfl
      rw [whole]
      exact (Reference.parse_upperChars _).map fun target _ _ same => same ▸ rfl
    · exact .ok (named (':' :: after))
  · rw [not_exists] at call block
    have noCall (after : List Char) :
        upperOutside false (text.dropWhile isWordChar) ≠ '(' :: after := fun same =>
      (cons_of_upperOutside rfl same).elim call
    have noBlock (after : List Char) :
        upperOutside false (text.dropWhile isWordChar) ≠ ':' :: after := fun same =>
      (cons_of_upperOutside rfl same).elim block
    rw [scanWord_alone rfl call block, scanWord_alone dropped noCall noBlock, taken, shape]
    split
    · exact (Reference.parse_upperChars _).map fun target _ _ same => same ▸ rfl
    · exact .ok (named _)

theorem ofChar?_toUpper (c : Char) : ofChar? c.toUpper = ofChar? c := by
  have unknown {c : Char} (letter : c.isAlpha = true) : ofChar? c = none := by
    unfold ofChar?
    split <;> first | rfl | cases letter
  exact apply_toUpper (fun _ _ letter other => (unknown letter).trans (unknown other).symm) c

theorem upper_of_ofChar? {c : Char} {token : Token} (known : ofChar? c = some token) :
    token.upper = token := by
  unfold ofChar? at known
  split at known <;> cases known <;> rfl

/-- The token that starts with a character is found in either case. The length of the formula
matters only to errors, and not to their kind. -/
theorem scan_upperOutside (size size' : Nat) {c first : Char} {rest others : List Char}
    (same : upperOutside false (c :: rest) = first :: others) :
    Outcome.AlikeUnder upperScanned (scan size c rest) (scan size' first others) := by
  by_cases quote : c = '"'
  · rw [quote, upperOutside_quote] at same
    obtain ⟨rfl, rfl⟩ := List.cons.inj same
    have unknown : ofChar? '"' = none := rfl
    simp only [quote, scan, unknown, if_true, scanText_upperOutside]
    cases scanText rest with
    | none => exact .error rfl
    | some scanned => exact .ok rfl
  · have starts := apply_upperOutside Numeral.startsAt_upperChars false (c :: rest)
    have number := scanNumber_upperOutside (c :: rest)
    have word := scanWord_upperOutside (c :: rest)
    rw [upperOutside_other quote] at same starts number word
    obtain ⟨rfl, rfl⟩ := List.cons.inj same
    have noQuote : c.toUpper ≠ '"' := toUpper_ne rfl quote
    rw [scan, scan, ofChar?_toUpper]
    cases known : ofChar? c with
    | some token => exact .ok (congrArg (·, _) (upper_of_ofChar? known).symm)
    | none =>
        have letter : (c.toUpper.isAlpha || decide (c.toUpper = '_')) =
            (c.isAlpha || decide (c = '_')) := by
          rw [isAlpha_toUpper, decide_eq_decide.2 (toUpper_eq_iff rfl)]
        simp only [if_neg quote, if_neg noQuote, starts, toUpper_eq_iff (d := '[') rfl, letter,
          toUpper_eq_iff (d := '=') rfl]
        split
        · exact number
        split
        · exact scanBracketed_upperOutside rest
        split
        · exact word
        split <;> exact .error rfl

theorem skipBlanks_upperOutside (text : List Char) :
    skipBlanks (upperOutside false text) = upperOutside false (skipBlanks text) :=
  dropWhile_upperOutside isBlank_toUpper rfl text

theorem scanAll_eq (size : Nat) (text : List Char) :
    scanAll size text =
      match skipBlanks text with
      | [] => .ok []
      | c :: rest =>
          scan size c rest >>= fun scanned =>
            scanAll size scanned.2 >>= fun tokens => .ok (scanned.1 :: tokens) := by
  rw [scanAll.eq_def]
  split
  · rename_i found
    rw [found]
  · rename_i c rest found
    rw [found]
    show _ = scan size c rest >>= _
    split
    · rename_i error failed
      rw [failed]
      rfl
    · rename_i token after scanned
      rw [scanned]
      split
      · rename_i error failed
        rw [Outcome.ok_bind, failed]
        rfl
      · rename_i tokens following
        rw [Outcome.ok_bind, following]
        rfl

theorem scanAll_upperOutside (size size' : Nat) (text : List Char) :
    Outcome.AlikeUnder (List.map upper) (scanAll size text)
      (scanAll size' (upperOutside false text)) := by
  induction lengths : text.length using Nat.strongRecOn generalizing text with
  | ind length ih =>
      rw [scanAll_eq, scanAll_eq size', skipBlanks_upperOutside]
      cases found : skipBlanks text with
      | nil => exact .ok rfl
      | cons c rest =>
          obtain ⟨quoted, same⟩ := upperOutside_cons c rest
          have alike := scan_upperOutside size size' same
          rw [same]
          refine Outcome.Alike.bind alike ?_
          rintro ⟨token, after⟩ _ scanned rfl
          have shorter : after.length < length := by
            have consumed := length_scan_lt scanned
            have skipped := length_skipBlanks_le text
            rw [found] at skipped
            omega
          exact (ih _ shorter after rfl).bind fun tokens => .ok rfl

theorem tokenize_upperOutside (formula : String) :
    Outcome.AlikeUnder (List.map upper) (tokenize formula)
      (tokenize (String.ofList (upperOutside false formula.toList))) := by
  rw [tokenize, tokenize, String.toList_ofList]
  exact scanAll_upperOutside _ _ formula.toList

end Token

end Spreadsheet

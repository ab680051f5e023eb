import Spreadsheet.Proofs.Interpolation
import Spreadsheet.Proofs.Numeral.Scanning
import Spreadsheet.Proofs.Reference

/-!
Tokens in writing. A token may be written in the usual way, references with brackets or without, and
between two written tokens there are blanks. No token goes on in a blank, so each scanner stops
where the writing of its token ends, whatever comes behind the blank.

The main statement is that tokens that were written in this way are found again when the text is
cut.
-/

set_option autoImplicit false

namespace Spreadsheet

open Text

/-- Letters, digits and underscores with no digit in front. -/
structure IsWord (word : List Char) : Prop where
  starts : ∃ first, word.head? = some first ∧ (first.isAlpha || first = '_') = true
  continues : ∀ c ∈ word, isWordChar c = true

namespace Token

/-- The ways to write a token. -/
inductive Written : Token → List Char → Prop
  | number {n : Int64} (natural : 0 ≤ n.toInt) :
      Written (.number (.int n)) (Nat.toDigits 10 n.toInt.toNat)
  | text (s : String) :
      Written (.text s) ('"' :: (Interpolation.doubleQuotes s.toList ++ ['"']))
  | bare {target : Reference} (fits : target.Fits) :
      Written (.reference target) target.text.toList
  | bracketed {target : Reference} (fits : target.Fits) :
      Written (.reference target) ('[' :: target.text.toList ++ [']'])
  | name {s : String} (word : IsWord s.toList) (unshaped : isAddressShaped s.toList = false) :
      Written (.name s) s.toList
  | function {s : String} (word : IsWord s.toList) : Written (.function s) (s.toList ++ ['('])
  | operator (operator : BinaryOperator) : Written (.operator operator) operator.symbol.toList
  | opening : Written .opening ['(']
  | closing : Written .closing [')']
  | comma : Written .comma [',']

/-- Tokens in writing with at least one blank between each two of them, and perhaps blanks in front
of them and behind. -/
inductive Rendered : List Token → List Char → Prop
  | nothing : Rendered [] []
  | blank {c : Char} {tokens : List Token} {text : List Char} (blank : isBlank c = true)
      (rest : Rendered tokens text) : Rendered tokens (c :: text)
  | last {token : Token} {lexeme : List Char} (written : Written token lexeme) :
      Rendered [token] lexeme
  | next {token : Token} {lexeme : List Char} {c : Char} {tokens : List Token} {text : List Char}
      (written : Written token lexeme) (blank : isBlank c = true) (rest : Rendered tokens text) :
      Rendered (token :: tokens) (lexeme ++ c :: text)

def Ends (rest : List Char) : Prop :=
  ∀ c ∈ rest.head?, isBlank c = true

theorem Ends.stops {rest : List Char} (ends : Ends rest) {p : Char → Bool}
    (dark : ∀ c, p c = true → isBlank c = false) : ∀ c ∈ rest.head?, p c = false := by
  intro c first
  rw [← Bool.not_eq_true]
  intro holds
  cases (ends c first).symm.trans (dark c holds)

theorem Ends.ne_cons {rest : List Char} (ends : Ends rest) {c : Char} (dark : isBlank c = false)
    (following : List Char) : rest ≠ c :: following := by
  rintro rfl
  cases dark.symm.trans (ends c rfl)

section Word

variable {word rest : List Char} (continues : ∀ c ∈ word, isWordChar c = true)

include continues

theorem scanWord_opening (rest : List Char) :
    scanWord (word ++ '(' :: rest) = .ok (.function (String.ofList word), rest) := by
  have stops : ∀ c ∈ ('(' :: rest).head?, isWordChar c = false := by
    rintro c ⟨⟩
    rfl
  rw [scanWord, takeWhile_of_stop continues stops, dropWhile_of_stop continues stops]
  rfl

theorem scanWord_colon (shaped : isAddressShaped word = true) (rest : List Char) :
    scanWord (word ++ ':' :: rest) =
      (Reference.parse (String.ofList (word ++ ':' :: rest.takeWhile isWordChar))).map
        fun reference => (.reference reference, rest.dropWhile isWordChar) := by
  have stops : ∀ c ∈ (':' :: rest).head?, isWordChar c = false := by
    rintro c ⟨⟩
    rfl
  rw [scanWord, takeWhile_of_stop continues stops, dropWhile_of_stop continues stops]
  exact if_pos shaped

theorem scanWord_of_ends (ends : Ends rest) :
    scanWord (word ++ rest) =
      if isAddressShaped word then
        (Reference.parse (String.ofList word)).map fun reference => (.reference reference, rest)
      else .ok (.name (String.ofList word), rest) := by
  have stops := ends.stops fun _ => isBlank_of_isWordChar
  rw [scanWord, takeWhile_of_stop continues stops, dropWhile_of_stop continues stops]
  split
  · rename_i after
    exact absurd rfl (ends.ne_cons (c := '(') rfl after)
  · rename_i after
    exact absurd rfl (ends.ne_cons (c := ':') rfl after)
  · rfl

end Word

theorem scanWord_reference {target : Reference} (fits : target.Fits) {rest : List Char}
    (ends : Ends rest) :
    scanWord (target.text.toList ++ rest) = .ok (.reference target, rest) := by
  have read := Reference.parse_text fits
  cases target with
  | cell address =>
      rw [Reference.text] at read ⊢
      rw [scanWord_of_ends (fun _ member => address.isWordChar_of_mem_text member) ends,
        address.isAddressShaped_text, if_pos rfl, String.ofList_toList, read]
      rfl
  | range block =>
      have stops := ends.stops fun _ => isBlank_of_isWordChar
      have following : ∀ c ∈ block.last.text.toList, isWordChar c = true :=
        fun _ member => block.last.isWordChar_of_mem_text member
      rw [Reference.toList_text_range, List.append_assoc, List.cons_append,
        scanWord_colon (fun _ member => block.first.isWordChar_of_mem_text member)
          block.first.isAddressShaped_text,
        takeWhile_of_stop following stops, dropWhile_of_stop following stops,
        ← Reference.toList_text_range, String.ofList_toList, read]
      rfl

theorem ofChar?_of_isWordChar {c : Char} (word : isWordChar c = true) : ofChar? c = none := by
  unfold ofChar?
  split <;> first | rfl | cases word

theorem startsAt_of_letter {c : Char} (letter : (c.isAlpha || c = '_') = true)
    (rest : List Char) : ¬ Numeral.startsAt (c :: rest) = true := by
  have noDigit : c.isDigit = false := by
    rw [← Bool.not_eq_true]
    intro digit
    rw [isAlpha_of_isDigit digit, Bool.false_or, decide_eq_true_eq] at letter
    rw [letter] at digit
    cases digit
  have noPoint : c ≠ '.' := by
    rintro rfl
    cases letter
  rw [Numeral.startsAt.eq_2 _ _ (fun _ _ point _ => noPoint point), noDigit]
  exact Bool.false_ne_true

theorem scanned_word {word behind after : List Char} {token : Token} (isWord : IsWord word)
    (found : scanWord (word ++ behind) = .ok (token, after)) :
    ∃ c text, word ++ behind = c :: text ∧ isBlank c = false ∧ Scanned c text token after := by
  obtain ⟨c, first, letter⟩ := isWord.starts
  obtain ⟨others, rfl⟩ := List.head?_eq_some_iff.1 first
  have inWord := isWord.continues c List.mem_cons_self
  have noQuote : c ≠ '"' := by
    rintro rfl
    cases letter
  have noBracket : c ≠ '[' := by
    rintro rfl
    cases letter
  exact ⟨c, others ++ behind, rfl, isBlank_of_isWordChar inWord,
    .word (ofChar?_of_isWordChar inWord) noQuote (startsAt_of_letter letter _) noBracket letter
      found⟩

theorem isWord_letters_append {n : Nat} {behind : List Char}
    (continues : ∀ c ∈ Column.letters (n + 1) ++ behind, isWordChar c = true) :
    IsWord (Column.letters (n + 1) ++ behind) := by
  obtain ⟨first, others, same⟩ := List.exists_cons_of_ne_nil (Column.letters_succ_ne_nil n)
  have letter : first.isAlpha = true :=
    Column.isAlpha_of_mem_letters (n := n + 1) (by rw [same]; exact List.mem_cons_self)
  exact ⟨⟨first, by rw [same]; rfl, by rw [letter]; rfl⟩, continues⟩

theorem scanNumber_of_scan {text after : List Char} {numeral : Numeral} {n : Number}
    (scanned : Numeral.scan text = (numeral, after)) (number : numeral.number? false = some n) :
    scanNumber text = .ok (.number n, after) := by
  simp only [scanNumber, scanned, number]

theorem scanned_numeral {numeral : Numeral} (formed : numeral.Formed) {n : Number}
    (value : numeral.number? false = some n) {rest : List Char} (ends : Ends rest) :
    ∃ c text, numeral.text ++ rest = c :: text ∧ isBlank c = false ∧
      Scanned c text (.number n) rest := by
  have starts := Numeral.startsAt_text formed rest
  have read := scanNumber_of_scan (Numeral.scan_text formed ends) value
  obtain ⟨c, text, same⟩ : ∃ c text, numeral.text ++ rest = c :: text := by
    apply List.exists_cons_of_ne_nil
    intro nothing
    rw [nothing] at starts
    cases starts
  rw [same] at starts read ⊢
  refine ⟨c, text, rfl, ?_⟩
  rcases Numeral.digit_or_point_of_startsAt starts with digit | rfl
  · have inWord : isWordChar c = true := by
      rw [isWordChar, Char.isAlphanum, digit, Bool.or_true, Bool.true_or]
    have noQuote : c ≠ '"' := by
      rintro rfl
      cases digit
    exact ⟨isBlank_of_isDigit digit, .number (ofChar?_of_isWordChar inWord) noQuote starts read⟩
  · exact ⟨rfl, .number rfl (by decide) starts read⟩

theorem scanned_number {n : Int64} (natural : 0 ≤ n.toInt) {rest : List Char} (ends : Ends rest) :
    ∃ c text, Nat.toDigits 10 n.toInt.toNat ++ rest = c :: text ∧ isBlank c = false ∧
      Scanned c text (.number (.int n)) rest := by
  have formed : Numeral.Formed
      { whole := Nat.toDigits 10 n.toInt.toNat, fraction := none, exponent := none } :=
    ⟨fun _ member => Nat.isDigit_of_mem_toDigits (by decide) (by decide) member, nofun,
      .inl Nat.toDigits_ne_nil, nofun⟩
  have value : n.toInt = if false = true then
      Int.negOfNat (Nat.ofDigitChars 10 (Nat.toDigits 10 n.toInt.toNat) 0)
      else Nat.ofDigitChars 10 (Nat.toDigits 10 n.toInt.toNat) 0 := by
    rw [if_neg Bool.false_ne_true, Nat.ofDigitChars_toDigits (by decide) (by decide)]
    exact (Int.toNat_of_nonneg natural).symm
  have scanned := scanned_numeral formed (Numeral.number?_digits false value) ends
  simpa only [Numeral.text, Option.map_none, Option.getD_none, List.append_nil] using scanned

/-- A written token is the first token of any text that goes on with a blank, or not at all. -/
theorem Written.scanned {token : Token} {lexeme rest : List Char}
    (written : Written token lexeme) (ends : Ends rest) :
    ∃ c text, lexeme ++ rest = c :: text ∧ isBlank c = false ∧ Scanned c text token rest := by
  cases written with
  | number natural => exact scanned_number natural ends
  | text s =>
      have noQuote : rest.head? ≠ some '"' := fun first => by cases ends _ first
      refine ⟨'"', Interpolation.doubleQuotes s.toList ++ '"' :: rest, ?_, rfl, ?_⟩
      · rw [List.cons_append, List.append_assoc]
        rfl
      · have scanned := Interpolation.scanText_doubleQuotes s.toList rest noQuote
        have same : Scanned '"' _ (.text (String.ofList s.toList)) rest := .text rfl rfl scanned
        rwa [String.ofList_toList] at same
  | @bare target fits =>
      have found := scanWord_reference fits ends
      cases target with
      | cell address =>
          have isWord : IsWord (Reference.cell address).text.toList := by
            rw [Reference.text, address.toList_text]
            refine isWord_letters_append ?_
            rw [← address.toList_text]
            exact fun _ member => address.isWordChar_of_mem_text member
          exact scanned_word isWord found
      | range block =>
          have isWord : IsWord block.first.text.toList := by
            rw [block.first.toList_text]
            refine isWord_letters_append ?_
            rw [← block.first.toList_text]
            exact fun _ member => block.first.isWordChar_of_mem_text member
          rw [Reference.toList_text_range, List.append_assoc] at found ⊢
          exact scanned_word isWord found
  | @bracketed target fits =>
      have cut : cutAt ']' (target.text.toList ++ ']' :: rest) = some (target.text.toList, rest) :=
        cutAt_eq_some_iff.2 ⟨rfl, target.not_mem_text rfl (by decide)⟩
      have found : scanBracketed (target.text.toList ++ ']' :: rest) =
          .ok (.reference target, rest) := by
        rw [scanBracketed, cut]
        simp only [Reference.parse_bracketed fits]
        rfl
      refine ⟨'[', target.text.toList ++ ']' :: rest, ?_, rfl, ?_⟩
      · rw [List.cons_append, List.cons_append, List.append_assoc]
        rfl
      · exact .bracketed rfl (by decide) Bool.false_ne_true rfl found
  | @name s word unshaped =>
      have found := scanWord_of_ends word.continues ends
      rw [unshaped, if_neg Bool.false_ne_true, String.ofList_toList] at found
      exact scanned_word word found
  | @function s word =>
      have found := scanWord_opening word.continues rest
      rw [String.ofList_toList] at found
      rw [List.append_assoc]
      exact scanned_word word found
  | operator operator =>
      cases operator with
      | add => exact ⟨'+', rest, rfl, rfl, .symbol rfl⟩
      | subtract => exact ⟨'-', rest, rfl, rfl, .symbol rfl⟩
      | multiply => exact ⟨'*', rest, rfl, rfl, .symbol rfl⟩
      | divide => exact ⟨'/', rest, rfl, rfl, .symbol rfl⟩
      | power => exact ⟨'^', rest, rfl, rfl, .symbol rfl⟩
      | concat => exact ⟨'&', rest, rfl, rfl, .symbol rfl⟩
  | opening => exact ⟨'(', rest, rfl, rfl, .symbol rfl⟩
  | closing => exact ⟨')', rest, rfl, rfl, .symbol rfl⟩
  | comma => exact ⟨',', rest, rfl, rfl, .symbol rfl⟩

theorem Rendered.cuts {tokens : List Token} {text : List Char} (rendered : Rendered tokens text) :
    Cuts text tokens [] := by
  have front {token : Token} {lexeme rest : List Char} {others : List Token}
      (written : Written token lexeme) (ends : Ends rest) (following : Cuts rest others []) :
      Cuts (lexeme ++ rest) (token :: others) [] := by
    obtain ⟨c, behind, same, dark, scanned⟩ := written.scanned ends
    rw [same]
    exact .token dark scanned following
  induction rendered with
  | nothing => exact .done []
  | blank blank rest ih => exact .blank blank ih
  | @last token lexeme written =>
      have nothing : Ends [] := by rintro c ⟨⟩
      have alone := front written nothing (.done [])
      rwa [List.append_nil] at alone
  | @next token lexeme c tokens text written blank rest ih =>
      refine front written ?_ (.blank blank ih)
      rintro _ ⟨⟩
      exact blank

theorem exists_rendered {tokens : List Token}
    (writable : ∀ token ∈ tokens, ∃ lexeme, Written token lexeme) :
    ∃ text, Rendered tokens text := by
  induction tokens with
  | nil => exact ⟨[], .nothing⟩
  | cons token others ih =>
      obtain ⟨⟨lexeme, written⟩, rest⟩ := List.forall_mem_cons.1 writable
      obtain ⟨text, rendered⟩ := ih rest
      exact ⟨lexeme ++ ' ' :: text, .next written rfl rendered⟩

/-- Cutting finds the tokens that were written. Natural numbers, texts with any characters,
references with and without brackets, names and functions of any words, operators, parentheses and
commas can be written, and whichever way each of them is written and whatever blanks stand between
them, the text is cut into these tokens and no others. -/
theorem tokenize_rendered {tokens : List Token}
    (writable : ∀ token ∈ tokens, ∃ lexeme, Written token lexeme) :
    (∃ text, Rendered tokens text) ∧
      ∀ text, Rendered tokens text → tokenize (String.ofList text) = .ok tokens := by
  refine ⟨exists_rendered writable, ?_⟩
  intro text rendered
  rw [tokenize_eq_ok_iff, String.toList_ofList]
  exact rendered.cuts

def mixedTokens : List Token :=
  [.number (.int 12), .name "E5_", .function "LOG10",
    .reference (.range (.spanning ⟨0, 0⟩ ⟨1, 27⟩)), .comma, .reference (.cell ⟨2, 2⟩), .closing,
    .operator .concat, .text "\"[ "]

def mixedText : List Char :=
  "\t12 E5_  LOG10( A1:AB2 , [C3] ) & \"\"\"[ \"".toList

theorem tokenize_rendered_mixedTokens :
    (∀ token ∈ mixedTokens, ∃ lexeme, Written token lexeme) ∧ Rendered mixedTokens mixedText ∧
      tokenize (String.ofList mixedText) = .ok mixedTokens := by
  have number : Written (.number (.int 12)) ['1', '2'] := .number (n := 12) (by decide)
  have name : Written (.name "E5_") ['E', '5', '_'] :=
    .name ⟨⟨'E', rfl, rfl⟩, List.all_eq_true.1 (by decide)⟩ (by decide)
  have function : Written (.function "LOG10") ['L', 'O', 'G', '1', '0', '('] :=
    .function ⟨⟨'L', rfl, rfl⟩, List.all_eq_true.1 (by decide)⟩
  have blockFits : Reference.Fits (.range (.spanning ⟨0, 0⟩ ⟨1, 27⟩)) :=
    ⟨⟨by decide, by decide⟩, ⟨by decide, by decide⟩⟩
  have block : Written (.reference (.range (.spanning ⟨0, 0⟩ ⟨1, 27⟩)))
      ['A', '1', ':', 'A', 'B', '2'] := by
    have same : (Reference.range (.spanning ⟨0, 0⟩ ⟨1, 27⟩)).text.toList =
        ['A', '1', ':', 'A', 'B', '2'] := by decide +kernel
    exact same ▸ .bare blockFits
  have cellFits : Reference.Fits (.cell ⟨2, 2⟩) := ⟨by decide, by decide⟩
  have cell : Written (.reference (.cell ⟨2, 2⟩)) ['[', 'C', '3', ']'] := by
    have same : (Reference.cell ⟨2, 2⟩).text.toList = ['C', '3'] := by decide +kernel
    have bracketed := Written.bracketed cellFits
    rwa [same] at bracketed
  have concat : Written (.operator .concat) ['&'] := .operator .concat
  have text : Written (.text "\"[ ") ['"', '"', '"', '[', ' ', '"'] := .text "\"[ "
  have rendered : Rendered mixedTokens mixedText :=
    .blank rfl <| .next number rfl <| .next name rfl <| .blank rfl <| .next function rfl <|
      .next block rfl <| .next .comma rfl <| .next cell rfl <| .next .closing rfl <|
      .next concat rfl <| .last text
  have writable : ∀ token ∈ mixedTokens, ∃ lexeme, Written token lexeme := by
    simp only [mixedTokens, List.forall_mem_cons]
    exact ⟨⟨_, number⟩, ⟨_, name⟩, ⟨_, function⟩, ⟨_, block⟩, ⟨_, .comma⟩, ⟨_, cell⟩,
      ⟨_, .closing⟩, ⟨_, concat⟩, ⟨_, text⟩, List.forall_mem_nil _⟩
  exact ⟨writable, rendered, (tokenize_rendered writable).2 _ rendered⟩

end Token

end Spreadsheet

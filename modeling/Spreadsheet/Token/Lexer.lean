import Spreadsheet.Reference.Written
import Spreadsheet.Token

/-!
Cutting a formula into tokens. Blanks separate tokens and mean nothing else. Each scanner takes
the longest token of its kind from the front of the text and returns what follows it. The main
statement is that a scanned token is never empty, which is why cutting comes to an end.
-/

set_option autoImplicit false

namespace Spreadsheet

open Text

namespace Token

/-- The inside of a text constant up to its closing quote, and what follows the quote. Two quotes
stand for one. -/
def scanText : List Char → Option (List Char × List Char)
  | [] => none
  | '"' :: '"' :: rest => (scanText rest).map fun scanned => ('"' :: scanned.1, scanned.2)
  | '"' :: rest => some ([], rest)
  | c :: rest => (scanText rest).map fun scanned => (c :: scanned.1, scanned.2)

def scanBracketed (rest : List Char) : Outcome (Token × List Char) :=
  match cutAt ']' rest with
  | none => .error (.writing .unterminatedBracket)
  | some (inside, after) =>
      (Reference.parse (String.ofList ('[' :: inside ++ [']']))).map
        fun reference => (.reference reference, after)

/-- A word: a function's name, a reference or a name. A colon after an address belongs to the
reference, together with the word after it. -/
def scanWord (text : List Char) : Outcome (Token × List Char) :=
  let word := text.takeWhile isWordChar
  match text.dropWhile isWordChar with
  | '(' :: after => .ok (.function (String.ofList word), after)
  | ':' :: after =>
      if isAddressShaped word then
        (Reference.parse (String.ofList (word ++ ':' :: after.takeWhile isWordChar))).map
          fun reference => (.reference reference, after.dropWhile isWordChar)
      else .ok (.name (String.ofList word), ':' :: after)
  | after =>
      if isAddressShaped word then
        (Reference.parse (String.ofList word)).map fun reference => (.reference reference, after)
      else .ok (.name (String.ofList word), after)

def scanNumber (text : List Char) : Outcome (Token × List Char) :=
  let (numeral, after) := Numeral.scan text
  match numeral.number? false with
  | some n => .ok (.number n, after)
  | none => .error (.writing (.invalidNumber (String.ofList numeral.text)))

def byteLength (text : List Char) : Nat :=
  text.foldl (fun size c => size + c.utf8Size) 0

/-- The token that starts with a character. `size` is the length of the whole formula in bytes,
from which the position of a character that starts no token is found. -/
def scan (size : Nat) (c : Char) (rest : List Char) : Outcome (Token × List Char) :=
  match ofChar? c with
  | some token => .ok (token, rest)
  | none =>
      if c = '"' then
        match scanText rest with
        | some (content, after) => .ok (.text (String.ofList content), after)
        | none => .error (.writing .unterminatedText)
      else if Numeral.startsAt (c :: rest) then scanNumber (c :: rest)
      else if c = '[' then scanBracketed rest
      else if c.isAlpha || c = '_' then scanWord (c :: rest)
      else if c = '=' then .error (.writing .repeatedEquals)
      else .error (.writing (.unexpectedCharacter c (size - byteLength (c :: rest) + 1)))

theorem length_scanText_le {text content after : List Char}
    (h : scanText text = some (content, after)) : after.length < text.length := by
  fun_induction scanText text generalizing content after with
  | case1 => cases h
  | case2 rest ih =>
      obtain ⟨⟨inner, following⟩, scanned, equal⟩ := Option.map_eq_some_iff.1 h
      obtain ⟨-, rfl⟩ := Prod.mk.inj equal
      have := ih scanned
      simp only [List.length_cons]
      omega
  | case3 rest =>
      cases h
      simp
  | case4 c rest _ _ ih =>
      obtain ⟨⟨inner, following⟩, scanned, equal⟩ := Option.map_eq_some_iff.1 h
      obtain ⟨-, rfl⟩ := Prod.mk.inj equal
      have := ih scanned
      simp only [List.length_cons]
      omega

theorem after_of_map {read : Outcome Reference} {following after : List Char}
    {token : Token}
    (h : read.map (fun reference => (Token.reference reference, following)) = .ok (token, after)) :
    after = following := by
  cases read with
  | error fault => cases h
  | ok reference =>
      cases h
      rfl

theorem length_scanBracketed_le {rest after : List Char} {token : Token}
    (h : scanBracketed rest = .ok (token, after)) : after.length ≤ rest.length := by
  unfold scanBracketed at h
  split at h
  · cases h
  · rename_i inside following cut
    obtain ⟨joined, -⟩ := cutAt_eq_some_iff.1 cut
    rw [after_of_map h, joined]
    simp only [List.length_append, List.length_cons]
    omega

theorem length_scanWord_lt {c : Char} {rest after : List Char} {token : Token}
    (starts : isWordChar c = true) (h : scanWord (c :: rest) = .ok (token, after)) :
    after.length < (c :: rest).length := by
  have shorter : ((c :: rest).dropWhile isWordChar).length ≤ rest.length := by
    rw [List.dropWhile_cons, if_pos starts]
    exact (List.dropWhile_sublist _).length_le
  unfold scanWord at h
  generalize (c :: rest).dropWhile isWordChar = behind at h shorter
  suffices after.length ≤ behind.length by
    simp only [List.length_cons]
    omega
  dsimp only at h
  split at h
  · cases h
    simp
  · rename_i following
    split at h
    · rw [after_of_map h, List.length_cons]
      exact Nat.le_succ_of_le (List.dropWhile_sublist _).length_le
    · cases h
      simp
  · split at h
    · exact Nat.le_of_eq (congrArg List.length (after_of_map h))
    · cases h
      exact Nat.le_refl _

theorem length_scan_lt {size : Nat} {c : Char} {rest after : List Char} {token : Token}
    (h : scan size c rest = .ok (token, after)) : after.length < (c :: rest).length := by
  unfold scan at h
  split at h
  · cases h
    simp
  split at h
  · split at h
    · rename_i scanned
      cases h
      exact Nat.lt_succ_of_lt (length_scanText_le scanned)
    · cases h
  split at h
  · rename_i starts
    unfold scanNumber at h
    simp only at h
    split at h
    · cases h
      exact Numeral.length_scan_lt starts
    · cases h
  split at h
  · exact Nat.lt_succ_of_le (length_scanBracketed_le h)
  split at h
  · rename_i starts
    refine length_scanWord_lt ?_ h
    rcases Bool.or_eq_true .. ▸ starts with letter | underscore
    · simp [isWordChar, Char.isAlphanum, letter]
    · simp_all [isWordChar]
  split at h <;> cases h

def scanAll (size : Nat) (text : List Char) : Outcome (List Token) :=
  match _found : skipBlanks text with
  | [] => .ok []
  | c :: rest =>
      match _scanned : scan size c rest with
      | .error error => .error error
      | .ok (token, after) =>
          match scanAll size after with
          | .error error => .error error
          | .ok tokens => .ok (token :: tokens)
termination_by text.length
decreasing_by
  have shorter := length_scan_lt _scanned
  have skipped := length_skipBlanks_le text
  rw [_found] at skipped
  omega

def tokenize (formula : String) : Outcome (List Token) :=
  scanAll (byteLength formula.toList) formula.toList

end Token

end Spreadsheet

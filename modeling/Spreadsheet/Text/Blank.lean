/-!
Blank characters and trimming. A character is blank when it has the Unicode property
`White_Space`; the standard library's own test knows only four of those characters.
The lemmas say what is left when blanks are skipped: nothing of a text of blanks, and else a text
that begins with none.
-/

set_option autoImplicit false

namespace Spreadsheet.Text

/-- The code points of the Unicode property `White_Space`. -/
def isBlank (c : Char) : Bool :=
  let code := c.toNat
  (9 ≤ code && code ≤ 13) || code == 0x20 || code == 0x85 || code == 0xA0 || code == 0x1680 ||
    (0x2000 ≤ code && code ≤ 0x200A) || code == 0x2028 || code == 0x2029 || code == 0x202F ||
    code == 0x205F || code == 0x3000

def skipBlanks (text : List Char) : List Char :=
  text.dropWhile isBlank

def trimChars (text : List Char) : List Char :=
  (skipBlanks (skipBlanks text).reverse).reverse

def trim (text : String) : String :=
  String.ofList (trimChars text.toList)

def isBlankText (text : String) : Bool :=
  text.toList.all isBlank

theorem length_skipBlanks_le (text : List Char) : (skipBlanks text).length ≤ text.length :=
  (List.dropWhile_sublist _).length_le

theorem isBlank_head_skipBlanks {text rest : List Char} {c : Char}
    (h : skipBlanks text = c :: rest) : isBlank c = false := by
  have kept := List.head?_dropWhile_not isBlank text
  rw [show text.dropWhile isBlank = c :: rest from h] at kept
  simpa using kept

theorem skipBlanks_of_head {c : Char} {rest : List Char} (h : isBlank c = false) :
    skipBlanks (c :: rest) = c :: rest := by
  simp [skipBlanks, h]

theorem skipBlanks_eq_nil_iff (text : List Char) :
    skipBlanks text = [] ↔ ∀ c ∈ text, isBlank c = true := by
  induction text with
  | nil => simp [skipBlanks]
  | cons c rest ih =>
      rw [skipBlanks, List.dropWhile_cons]
      cases hBlank : isBlank c with
      | false => simp [hBlank]
      | true =>
          rw [if_pos rfl, ← skipBlanks, ih]
          simp [hBlank]

end Spreadsheet.Text

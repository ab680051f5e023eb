/-!
The ASCII letters, the spelling of names and the cut at a separator. Names of functions and
of named values are compared after `upper`, which changes the letters `a` to `z` and nothing
else, so that a letter with an accent keeps its case.
-/

set_option autoImplicit false

namespace Spreadsheet.Text

def upper (text : String) : String :=
  String.ofList (text.toList.map Char.toUpper)

def isWordChar (c : Char) : Bool :=
  c.isAlphanum || c == '_'

/-- Cut a text at its first `separator`, which belongs to neither part. -/
def cutAt (separator : Char) : List Char → Option (List Char × List Char)
  | [] => none
  | c :: rest =>
      if c = separator then some ([], rest)
      else (cutAt separator rest).map fun parts => (c :: parts.1, parts.2)

theorem cutAt_eq_some_iff {separator : Char} {text before after : List Char} :
    cutAt separator text = some (before, after) ↔
      text = before ++ separator :: after ∧ separator ∉ before := by
  induction text generalizing before with
  | nil => simp [cutAt]
  | cons c rest ih =>
      by_cases same : c = separator
      · cases before with
        | nil => simp [cutAt, same]
        | cons first others => simp [cutAt, same]; intro equal; simp [equal]
      · cases before with
        | nil => simp [cutAt, same]
        | cons first others =>
            simp only [cutAt, same, if_false, Option.map_eq_some_iff, Prod.mk.injEq, Prod.exists,
              List.cons.injEq, List.cons_append, List.mem_cons, not_or]
            constructor
            · rintro ⟨_, _, cut, ⟨rfl, rfl⟩, rfl⟩
              exact ⟨⟨rfl, (ih.1 cut).1⟩, fun equal => same equal.symm, (ih.1 cut).2⟩
            · rintro ⟨⟨rfl, joined⟩, -, absent⟩
              exact ⟨_, _, ih.2 ⟨joined, absent⟩, ⟨rfl, rfl⟩, rfl⟩

theorem cutAt_eq_none_iff (separator : Char) (text : List Char) :
    cutAt separator text = none ↔ separator ∉ text := by
  induction text with
  | nil => simp [cutAt]
  | cons c rest ih =>
      by_cases same : c = separator
      · simp [cutAt, same]
      · simp [cutAt, same, ih, Ne.symm same]

end Spreadsheet.Text

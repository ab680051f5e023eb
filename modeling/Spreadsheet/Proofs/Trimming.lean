import Spreadsheet.Text.Ascii
import Spreadsheet.Text.Blank

/-!
Blanks around a text. Trimming takes away blanks at both ends and nothing else, so blanks that are
put around a text are trimmed away with those that it has. A cut at a separator that stands behind
the blanks is found in the trimmed text too, where the parts lack these blanks.
-/

set_option autoImplicit false

namespace Spreadsheet.Text

variable {front back : List Char}

theorem skipBlanks_append_left (blank : ∀ c ∈ front, isBlank c = true) (text : List Char) :
    skipBlanks (front ++ text) = skipBlanks text :=
  List.dropWhile_append_of_pos blank

theorem trimChars_between (blankFront : ∀ c ∈ front, isBlank c = true)
    (blankBack : ∀ c ∈ back, isBlank c = true) (text : List Char) :
    trimChars (front ++ text ++ back) = trimChars text := by
  rw [List.append_assoc, trimChars, skipBlanks_append_left blankFront, trimChars]
  by_cases nothing : skipBlanks text = []
  · have all : skipBlanks (text ++ back) = [] := by
      rw [skipBlanks_append_left ((skipBlanks_eq_nil_iff text).1 nothing)]
      exact (skipBlanks_eq_nil_iff back).2 blankBack
    rw [all, nothing]
  · have kept : skipBlanks (text ++ back) = skipBlanks text ++ back := by
      rw [skipBlanks, List.dropWhile_append, if_neg (by simpa [skipBlanks] using nothing)]
      rfl
    have reversed : ∀ c ∈ back.reverse, isBlank c = true :=
      fun c member => blankBack c (List.mem_reverse.1 member)
    rw [kept, List.reverse_append, skipBlanks_append_left reversed]

theorem takeWhile_append_skipBlanks (text : List Char) :
    text.takeWhile isBlank ++ skipBlanks text = text :=
  List.takeWhile_append_dropWhile

theorem exists_blanks_around (text : List Char) :
    ∃ front back, (∀ c ∈ front, isBlank c = true) ∧ (∀ c ∈ back, isBlank c = true) ∧
      text = front ++ trimChars text ++ back := by
  have ends := takeWhile_append_skipBlanks (skipBlanks text).reverse
  refine ⟨text.takeWhile isBlank, ((skipBlanks text).reverse.takeWhile isBlank).reverse,
    List.all_eq_true.1 List.all_takeWhile, ?_, ?_⟩
  · intro c member
    exact List.all_eq_true.1 List.all_takeWhile c (List.mem_reverse.1 member)
  · rw [List.append_assoc, trimChars, ← List.reverse_append, ends, List.reverse_reverse,
      takeWhile_append_skipBlanks]

theorem trimChars_trimChars (text : List Char) : trimChars (trimChars text) = trimChars text := by
  obtain ⟨front, back, blankFront, blankBack, same⟩ := exists_blanks_around text
  conv => rhs; rw [same]
  exact (trimChars_between blankFront blankBack _).symm

theorem cutAt_between {separator : Char} (absentFront : separator ∉ front)
    (absentBack : separator ∉ back) (text : List Char) :
    cutAt separator (front ++ text ++ back) =
      (cutAt separator text).map fun parts => (front ++ parts.1, parts.2 ++ back) := by
  cases cut : cutAt separator text with
  | none =>
      rw [cutAt_eq_none_iff] at cut
      rw [Option.map_none, cutAt_eq_none_iff, List.mem_append, List.mem_append]
      rintro ((inFront | inText) | inBack)
      · exact absentFront inFront
      · exact cut inText
      · exact absentBack inBack
  | some parts =>
      obtain ⟨joined, absent⟩ := cutAt_eq_some_iff.1 cut
      rw [Option.map_some, cutAt_eq_some_iff, joined, List.mem_append]
      refine ⟨by simp, ?_⟩
      rintro (inFront | inPart)
      · exact absentFront inFront
      · exact absent inPart

end Spreadsheet.Text

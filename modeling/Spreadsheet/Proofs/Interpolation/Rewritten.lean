import Spreadsheet.Proofs.Interpolation.Plain

/-!
Formulas after rewriting. In the formula that joins texts and expressions, a text stands between
quotes and its own quotes are doubled, so its braces do not count. An expression is put there as it
is and may bring along an opening brace, but it ends at the first closing brace that counts, so it
has none of its own.

The main statement is that a rewritten formula has no expression in braces left: rewriting it once
more changes nothing, whatever the formula was.
-/

set_option autoImplicit false

namespace Spreadsheet

namespace Interpolation

theorem splitClosing_cons_eq_none {c : Char} {quoted : Bool} {rest : List Char}
    (passed : c ≠ '}' ∨ quoted = true) (absent : splitClosing (quoted != (c == '"')) rest = none) :
    splitClosing quoted (c :: rest) = none := by
  have stays : ¬ (c = '}' && !quoted) = true := by
    rw [Bool.and_eq_true, decide_eq_true_eq, Bool.not_eq_true']
    rintro ⟨closing, outside⟩
    rcases passed with other | inside
    · exact other closing
    · cases outside.symm.trans inside
  rw [splitClosing, if_neg stays, absent]
  rfl

theorem splitGroup_of_splitClosing {quoted : Bool} {text : List Char}
    (absent : splitClosing quoted text = none) : splitGroup quoted text = none := by
  induction text generalizing quoted with
  | nil => rfl
  | cons c rest ih =>
      rw [splitClosing] at absent
      split at absent
      · cases absent
      · have behind := Option.map_eq_none_iff.1 absent
        rw [splitGroup]
        split
        · rename_i opening
          rw [Bool.and_eq_true, decide_eq_true_eq, Bool.not_eq_true'] at opening
          obtain ⟨rfl, rfl⟩ := opening
          exact Option.map_eq_none_iff.2 behind
        · exact Option.map_eq_none_iff.2 (ih behind)

theorem splitClosing_doubleQuotes {after : List Char} (absent : splitClosing false after = none)
    (content : List Char) : splitClosing true (doubleQuotes content ++ '"' :: after) = none := by
  induction content with
  | nil => exact splitClosing_cons_eq_none (.inr rfl) absent
  | cons c content ih =>
      rw [doubleQuotes, List.flatMap_cons, List.append_assoc, ← doubleQuotes]
      split
      · have second : splitClosing false ('"' :: (doubleQuotes content ++ '"' :: after)) = none :=
          splitClosing_cons_eq_none (.inl (by decide)) ih
        exact splitClosing_cons_eq_none (.inr rfl) second
      · rename_i other
        refine splitClosing_cons_eq_none (.inr rfl) ?_
        rw [beq_false_of_ne other]
        exact ih

theorem splitClosing_text {after : List Char} (absent : splitClosing false after = none)
    (content : List Char) :
    splitClosing false ('"' :: (doubleQuotes content ++ '"' :: after)) = none :=
  splitClosing_cons_eq_none (.inl (by decide)) (splitClosing_doubleQuotes absent content)

/-- What stands before the first closing brace that counts has none itself, and its quotes are
closed. -/
theorem splitClosing_inside {quoted : Bool} {text inside after following : List Char}
    (found : splitClosing quoted text = some (inside, after))
    (absent : splitClosing false following = none) :
    splitClosing quoted (inside ++ following) = none := by
  induction text generalizing quoted inside with
  | nil => cases found
  | cons c rest ih =>
      rw [splitClosing] at found
      split at found
      · rename_i closing
        rw [Bool.and_eq_true, Bool.not_eq_true'] at closing
        cases found
        rw [closing.2]
        exact absent
      · rename_i stays
        obtain ⟨⟨first, behind⟩, later, same⟩ := Option.map_eq_some_iff.1 found
        cases same
        rw [List.cons_append, splitClosing, if_neg stays, ih later]
        rfl

theorem exists_splitClosing_of_splitGroup {quoted : Bool} {text before inside after : List Char}
    (found : splitGroup quoted text = some (before, inside, after)) :
    ∃ opened, splitClosing false opened = some (inside, after) := by
  induction text generalizing quoted before with
  | nil => cases found
  | cons c rest ih =>
      rw [splitGroup] at found
      split at found
      · obtain ⟨⟨first, behind⟩, closed, same⟩ := Option.map_eq_some_iff.1 found
        cases same
        exact ⟨rest, closed⟩
      · obtain ⟨⟨first, parts⟩, later, same⟩ := Option.map_eq_some_iff.1 found
        cases same
        exact ih later

/-- No closing brace counts in the formula that joins the pieces of a text. -/
theorem splitClosing_joined (text : List Char) :
    splitClosing false (joined (pieces text).1 (pieces text).2) = none := by
  have ampersand {rest : List Char} (absent : splitClosing false rest = none) :
      splitClosing false ('&' :: rest) = none :=
    splitClosing_cons_eq_none (.inl (by decide)) absent
  fun_induction pieces text with
  | case1 text whole => exact splitClosing_text rfl text
  | case2 text before inside after found rest ih =>
      obtain ⟨opened, closed⟩ := exists_splitClosing_of_splitGroup found
      rw [joined_cons]
      exact splitClosing_text (ampersand (splitClosing_inside closed (ampersand ih))) before

theorem rewrite?_of_rewritten {formula result : String}
    (rewritten : rewrite? formula = some result) : rewrite? result = none := by
  unfold rewrite? at rewritten
  split at rewritten
  · rename_i body starts
    split at rewritten
    · cases rewritten
    · rename_i groups last interpolated split
      cases rewritten
      have absent := splitClosing_joined body
      rw [split] at absent
      exact rewrite?_eq_none (splitGroup_of_splitClosing absent)
  · cases rewritten

/-- Formulas are rewritten once. Whatever a formula is, nothing is left to rewrite in the result, so
that rewriting it again gives the same formula. -/
theorem rewrite_rewrite (formula : String) :
    rewrite? (rewrite formula) = none ∧ rewrite (rewrite formula) = rewrite formula := by
  have settled : rewrite? (rewrite formula) = none := by
    cases found : rewrite? formula with
    | none => rw [rewrite, found, Option.getD_none, found]
    | some result =>
        rw [rewrite, found, Option.getD_some]
        exact rewrite?_of_rewritten found
  refine ⟨settled, ?_⟩
  rw [rewrite, settled, Option.getD_none]
example : rewrite "=\x7b\x7bA1\x7d\"\x7d" = "=\"\"&\x7bA1&\"\"\"\x7d\"" := by decide +kernel

end Interpolation

end Spreadsheet

import Spreadsheet.Proofs.Address.Spelling
import Spreadsheet.Proofs.Failure
import Spreadsheet.Proofs.Reference
import Spreadsheet.Proofs.Trimming

/-!
References and plain addresses. A reference is read by a reader of its own, which strips brackets,
looks for a colon and asks for the shape of an address before it reads one. Addresses and blocks of
cells are read elsewhere without any of this.

The main statement is that the two agree: what stands in no brackets is read as a reference, and so
it is between brackets, exactly when it is read as an address or, if it has a colon, as a block.
-/

set_option autoImplicit false

namespace Spreadsheet

open Text

theorem Address.parse_congr {text other : List Char} (same : trimChars text = trimChars other) :
    parse (String.ofList text) = parse (String.ofList other) := by
  simp only [parse, trim, String.toList_ofList, same]

theorem Address.isAddressShaped_of_parse {text : List Char} {address : Address}
    (read : parse (String.ofList text) = .ok address) :
    isAddressShaped (trimChars text) = true := by
  obtain ⟨letters, digits, spells, -⟩ := parse_eq_ok_iff_spells.1 read
  rw [String.toList_ofList] at spells
  exact (isAddressShaped_iff _).2 ⟨letters, digits, spells.joined, spells.run.nonempty,
    spells.someDigit, spells.run.letters, spells.isDigit⟩

theorem CellRange.parse_eq_ok_iff {source : String} {block : CellRange} :
    parse source = .ok block ↔
      ∃ left right a b, cutAt ':' (trimChars source.toList) = some (left, right) ∧
        Address.parse (String.ofList left) = .ok a ∧
        Address.parse (String.ofList right) = .ok b ∧ spanning a b = block := by
  rw [parse]
  constructor
  · intro read
    split at read
    · cases read
    rename_i left right cut
    split at read
    · cases read
    rename_i a first
    split at read
    · cases read
    · rename_i b last
      exact ⟨left, right, a, b, cut, first, last, Except.ok.inj read⟩
  · rintro ⟨left, right, a, b, cut, first, last, rfl⟩
    simp only [cut, first, last]

theorem exists_of_map_eq_ok {ε α β : Type} {read : Except ε α} {change : α → β} {result : β}
    (found : read.map change = .ok result) : ∃ value, read = .ok value ∧ change value = result := by
  cases read with
  | error fault => cases found
  | ok value => exact ⟨value, rfl, Except.ok.inj found⟩

namespace Reference

def parsePlain (source : String) : Except AddressError Reference :=
  if ':' ∈ source.toList then (CellRange.parse source).map .range
  else (Address.parse source).map .cell

/-- A text names a cell, or the block between two cells. -/
inductive Names (text : List Char) : Reference → Prop
  | cell {address : Address} (single : cutAt ':' text = none)
      (read : Address.parse (String.ofList text) = .ok address) : Names text (.cell address)
  | range {left right : List Char} {a b : Address} (cut : cutAt ':' text = some (left, right))
      (first : Address.parse (String.ofList left) = .ok a)
      (last : Address.parse (String.ofList right) = .ok b) :
      Names text (.range (.spanning a b))

theorem parseAddress_eq_ok_iff {whole : String} {text : List Char} {address : Address} :
    parseAddress whole text = .ok address ↔
      Address.parse (String.ofList text) = .ok address := by
  have same := Address.parse_congr (trimChars_trimChars text)
  simp only [parseAddress, same]
  constructor
  · intro read
    split at read
    · split at read
      · rename_i found
        cases read
        exact found
      · cases read
    · cases read
  · intro read
    rw [if_pos (Address.isAddressShaped_of_parse read), read]

variable {source : String} {inner : List Char} {target : Reference}

/-- A reference is what the text between its brackets names. -/
theorem parse_eq_ok_iff_names (inside : unbracketed? (trimChars source.toList) = some inner) :
    parse source = .ok target ↔ Names inner target := by
  simp only [parse, inside]
  constructor
  · intro read
    split at read
    · rename_i single
      obtain ⟨address, found, same⟩ := Outcome.bind_eq_ok_iff.1 read
      cases same
      exact .cell single (parseAddress_eq_ok_iff.1 found)
    · rename_i left right cut
      obtain ⟨a, first, following⟩ := Outcome.bind_eq_ok_iff.1 read
      obtain ⟨b, last, same⟩ := Outcome.bind_eq_ok_iff.1 following
      cases same
      exact .range cut (parseAddress_eq_ok_iff.1 first) (parseAddress_eq_ok_iff.1 last)
  · intro names
    cases names with
    | cell single read =>
        simp only [single, parseAddress_eq_ok_iff.2 read]
        rfl
    | range cut first last =>
        simp only [cut, parseAddress_eq_ok_iff.2 first, parseAddress_eq_ok_iff.2 last]
        rfl

theorem names_trimChars (text : List Char) : Names (trimChars text) target ↔ Names text target := by
  obtain ⟨front, back, blankFront, blankBack, same⟩ := exists_blanks_around text
  have absent {part : List Char} (blank : ∀ c ∈ part, isBlank c = true) : ':' ∉ part :=
    fun member => nomatch blank ':' member
  have cuts : cutAt ':' text =
      (cutAt ':' (trimChars text)).map fun parts => (front ++ parts.1, parts.2 ++ back) := by
    conv => lhs; rw [same]
    exact cutAt_between (absent blankFront) (absent blankBack) _
  have whole := Address.parse_congr (trimChars_trimChars text)
  have first (part : List Char) := Address.parse_congr
    (trimChars_between blankFront (List.forall_mem_nil _) part)
  have last (part : List Char) := Address.parse_congr
    (trimChars_between (List.forall_mem_nil _) blankBack part)
  simp only [List.append_nil, List.nil_append] at first last
  constructor
  · intro names
    cases names with
    | cell single read =>
        rw [single, Option.map_none] at cuts
        exact .cell cuts (whole.symm.trans read)
    | range cut left right =>
        rw [cut, Option.map_some] at cuts
        exact .range cuts ((first _).trans left) ((last _).trans right)
  · intro names
    cases names with
    | cell single read =>
        rw [single, eq_comm, Option.map_eq_none_iff] at cuts
        exact .cell cuts (whole.trans read)
    | range cut left right =>
        rw [cut, eq_comm, Option.map_eq_some_iff] at cuts
        obtain ⟨parts, found, joined⟩ := cuts
        cases joined
        exact .range found ((first _).symm.trans left) ((last _).symm.trans right)

theorem parsePlain_eq_ok_iff_names :
    parsePlain source = .ok target ↔ Names source.toList target := by
  rw [parsePlain]
  split
  · rename_i colon
    have range_iff : (CellRange.parse source).map Reference.range = .ok target ↔
        Names (trimChars source.toList) target := by
      constructor
      · intro read
        obtain ⟨block, found, rfl⟩ := exists_of_map_eq_ok read
        obtain ⟨left, right, a, b, cut, first, last, rfl⟩ := CellRange.parse_eq_ok_iff.1 found
        exact .range cut first last
      · intro names
        cases names with
        | cell single read =>
            cases (names_trimChars _).1 (.cell single read) with
            | cell absent => exact absurd colon ((cutAt_eq_none_iff _ _).1 absent)
        | range cut first last =>
            rw [CellRange.parse_eq_ok_iff.2 ⟨_, _, _, _, cut, first, last, rfl⟩]
            rfl
    exact range_iff.trans (names_trimChars _)
  · rename_i noColon
    have single : cutAt ':' source.toList = none := (cutAt_eq_none_iff _ _).2 noColon
    constructor
    · intro read
      obtain ⟨address, found, rfl⟩ := exists_of_map_eq_ok read
      rw [← String.ofList_toList (s := source)] at found
      exact .cell single found
    · intro names
      cases names with
      | cell _ read =>
          rw [String.ofList_toList] at read
          rw [read]
          rfl
      | range cut => cases single.symm.trans cut

/-- Brackets, colons and blanks make no difference between references and plain addresses. A written
reference is read back. A text in no brackets is read as a reference, and in brackets too, exactly
when it is read as an address or, having a colon, as a block of cells; where that fails, both fail
with a fault of writing. -/
theorem parse_agrees_with_addresses :
    (∀ target : Reference, target.Fits → parse target.text = .ok target) ∧
      ∀ source : String, (trimChars source.toList).head? ≠ some '[' →
        (trimChars source.toList).getLast? ≠ some ']' →
        (∀ target, (parse source = .ok target ↔ parsePlain source = .ok target) ∧
          (parse ("[" ++ source ++ "]") = .ok target ↔ parsePlain source = .ok target)) ∧
        ∀ cause, parsePlain source = .error cause →
          (∃ fault, parse source = .error (.writing fault)) ∧
            ∃ fault, parse ("[" ++ source ++ "]") = .error (.writing fault) := by
  refine ⟨fun _ fits => parse_text fits, fun source unopened unclosed => ?_⟩
  have bare (target : Reference) :
      parse source = .ok target ↔ parsePlain source = .ok target := by
    have inside : unbracketed? (trimChars source.toList) = some (trimChars source.toList) := by
      rw [unbracketed?, if_neg unopened, if_neg unclosed]
    rw [parse_eq_ok_iff_names inside, names_trimChars, parsePlain_eq_ok_iff_names]
  have bracketed (target : Reference) :
      parse ("[" ++ source ++ "]") = .ok target ↔ parsePlain source = .ok target := by
    have inside : unbracketed? (trimChars ("[" ++ source ++ "]").toList) = some source.toList := by
      rw [String.toList_append, String.toList_append]
      exact unbracketed?_bracketed source.toList
    rw [parse_eq_ok_iff_names inside, parsePlain_eq_ok_iff_names]
  refine ⟨fun target => ⟨bare target, bracketed target⟩, fun cause failed => ?_⟩
  have refused {text : String}
      (same : ∀ target, parse text = .ok target ↔ parsePlain source = .ok target) :
      ∃ fault, parse text = .error (.writing fault) := by
    cases read : parse text with
    | ok target => cases failed.symm.trans ((same target).1 read)
    | error error =>
        obtain ⟨fault, rfl, -⟩ := failsOnly_parse text error read
        exact ⟨fault, rfl⟩
  exact ⟨refused bare, refused bracketed⟩

/-- Blanks around the colon, and a second colon. -/
theorem parse_agrees_with_addresses_colons :
    (trimChars " b02\t: A1 ".toList).head? ≠ some '[' ∧
      (trimChars " b02\t: A1 ".toList).getLast? ≠ some ']' ∧
      parse " b02\t: A1 " = .ok (.range (.spanning ⟨0, 0⟩ ⟨1, 1⟩)) ∧
      parse "[ b02\t: A1 ]" = .ok (.range (.spanning ⟨0, 0⟩ ⟨1, 1⟩)) ∧
      (∃ fault, parse "A1:B2:C3" = .error (.writing fault)) ∧
      Fits (.cell ⟨2, 27⟩) ∧ parse (text (.cell ⟨2, 27⟩)) = .ok (.cell ⟨2, 27⟩) := by
  obtain ⟨read_back, agrees⟩ := parse_agrees_with_addresses
  have unopened : (trimChars " b02\t: A1 ".toList).head? ≠ some '[' := by decide
  have unclosed : (trimChars " b02\t: A1 ".toList).getLast? ≠ some ']' := by decide
  have plain : parsePlain " b02\t: A1 " = .ok (.range (.spanning ⟨0, 0⟩ ⟨1, 1⟩)) := by
    decide +kernel
  have both := (agrees " b02\t: A1 " unopened unclosed).1 (.range (.spanning ⟨0, 0⟩ ⟨1, 1⟩))
  have failed : parsePlain "A1:B2:C3" = .error (.badRow "B2:C3") := by decide +kernel
  have refused := (agrees "A1:B2:C3" (by decide) (by decide)).2 _ failed
  have fits : Fits (.cell ⟨2, 27⟩) := ⟨by decide, by decide⟩
  exact ⟨unopened, unclosed, both.1.2 plain, both.2.2 plain, refused.1, fits, read_back _ fits⟩

end Reference

end Spreadsheet

import Spreadsheet.Proofs.Interpolation

/-!
Formulas without interpolation. Two scanners look at a formula: the one for expressions in braces
takes every quote for the beginning or the end of a text, while the one for tokens reads a doubled
quote inside of a text as one character and looks for the end of a bracket without minding quotes.
They agree on every formula that can be cut into tokens: outside of its texts it has no brace, and a
bracket in which a reference can be read has no quote.

The main statement is that a formula that can be read has no expression in braces, so rewriting
leaves it as it is.
-/

set_option autoImplicit false

namespace Spreadsheet

open Text

namespace Interpolation

def Inert (text : List Char) : Prop :=
  ∀ c ∈ text, c ≠ '{' ∧ c ≠ '"'

instance (text : List Char) : Decidable (Inert text) :=
  List.decidableBAll (fun c => c ≠ '{' ∧ c ≠ '"') text

theorem inert_cons {c : Char} {text : List Char} :
    Inert (c :: text) ↔ (c ≠ '{' ∧ c ≠ '"') ∧ Inert text :=
  List.forall_mem_cons

theorem inert_append {first second : List Char} :
    Inert (first ++ second) ↔ Inert first ∧ Inert second :=
  List.forall_mem_append

theorem inert_of_forall {p : Char → Bool} {text : List Char} (brace : p '{' = false)
    (quote : p '"' = false) (all : ∀ c ∈ text, p c = true) : Inert text := by
  intro c member
  have holds := all c member
  constructor
  · rintro rfl
    cases brace.symm.trans holds
  · rintro rfl
    cases quote.symm.trans holds

theorem inert_takeWhile {p : Char → Bool} (brace : p '{' = false) (quote : p '"' = false)
    (text : List Char) : Inert (text.takeWhile p) :=
  inert_of_forall brace quote (List.all_eq_true.1 List.all_takeWhile)

theorem splitGroup_inert_append {before after : List Char} (inert : Inert before)
    (absent : splitGroup false after = none) : splitGroup false (before ++ after) = none := by
  induction before with
  | nil => exact absent
  | cons c before ih =>
      obtain ⟨⟨noBrace, noQuote⟩, others⟩ := inert_cons.1 inert
      have still : (false != (c == '"')) = false := by rw [beq_false_of_ne noQuote]; rfl
      rw [List.cons_append, splitGroup, if_neg (by simp [noBrace]), still, ih others]
      rfl

theorem splitGroup_of_scanText {text content after : List Char}
    (scanned : Token.scanText text = some (content, after))
    (absent : splitGroup false after = none) : splitGroup true text = none := by
  fun_induction Token.scanText text generalizing content after with
  | case1 => cases scanned
  | case2 rest ih =>
      obtain ⟨⟨inner, behind⟩, found, same⟩ := Option.map_eq_some_iff.1 scanned
      cases same
      have inside := ih found absent
      show ((splitGroup true rest).map _).map _ = none
      rw [inside]
      rfl
  | case3 rest single =>
      cases scanned
      show (splitGroup false rest).map _ = none
      rw [absent]
      rfl
  | case4 c rest doubled closing ih =>
      obtain ⟨⟨inner, behind⟩, found, same⟩ := Option.map_eq_some_iff.1 scanned
      cases same
      have still : (true != (c == '"')) = true := by rw [beq_false_of_ne closing]; rfl
      rw [splitGroup, if_neg (by simp), still, ih found absent]
      rfl

theorem inert_exponent (text : List Char) :
    Inert (((Exponent.scan text).1.map Exponent.text).getD []) := by
  cases text with
  | nil => exact List.forall_mem_nil _
  | cons mark rest =>
      simp only [Exponent.scan]
      split
      · rename_i counts
        rw [Bool.and_eq_true, Bool.or_eq_true, decide_eq_true_eq, decide_eq_true_eq] at counts
        have marked : mark ≠ '{' ∧ mark ≠ '"' := by
          rcases counts.1 with rfl | rfl <;> decide
        have signed : Inert (Exponent.scanSign rest).1.toList := by
          cases rest with
          | nil => exact List.forall_mem_nil _
          | cons c rest =>
              rw [Exponent.scanSign]
              split
              · rename_i sign
                rw [Bool.or_eq_true, decide_eq_true_eq, decide_eq_true_eq] at sign
                refine inert_cons.2 ⟨?_, List.forall_mem_nil _⟩
                rcases sign with rfl | rfl <;> decide
              · exact List.forall_mem_nil _
        rw [Option.map_some, Option.getD_some, Exponent.text, List.cons_append]
        exact inert_cons.2 ⟨marked, inert_append.2 ⟨signed, inert_takeWhile rfl rfl _⟩⟩
      · exact List.forall_mem_nil _

theorem inert_numeral (text : List Char) : Inert (Numeral.scan text).1.text := by
  have fraction (rest : List Char) :
      Inert (((Numeral.scanFraction rest).1.map ('.' :: ·)).getD []) := by
    unfold Numeral.scanFraction
    split
    · exact inert_cons.2 ⟨by decide, inert_takeWhile rfl rfl _⟩
    · exact List.forall_mem_nil _
  rw [Numeral.text, inert_append, inert_append]
  exact ⟨⟨inert_takeWhile rfl rfl text, fraction _⟩, inert_exponent _⟩

theorem inert_of_trimChars {text : List Char} (inert : Inert (trimChars text)) : Inert text := by
  have skipped {part : List Char} (rest : Inert (skipBlanks part)) : Inert part := by
    rw [← List.takeWhile_append_dropWhile (p := isBlank) (l := part)]
    exact inert_append.2 ⟨inert_takeWhile rfl rfl part, rest⟩
  apply skipped
  have reversed : Inert (skipBlanks text).reverse := skipped fun c member =>
    inert c (List.mem_reverse.2 member)
  exact fun c member => reversed c (List.mem_reverse.2 member)

theorem inert_of_parseAddress {whole : String} {text : List Char} {address : Address}
    (read : Reference.parseAddress whole text = .ok address) : Inert text := by
  unfold Reference.parseAddress at read
  dsimp only at read
  split at read
  · rename_i shaped
    obtain ⟨letters, digits, same, -, -, allLetters, allDigits⟩ := (isAddressShaped_iff _).1 shaped
    apply inert_of_trimChars
    rw [same, inert_append]
    exact ⟨inert_of_forall rfl rfl allLetters, inert_of_forall rfl rfl allDigits⟩
  · cases read

theorem inert_of_parse {text : List Char} {target : Reference}
    (read : Reference.parse (String.ofList text) = .ok target) : Inert text := by
  rw [Reference.parse, String.toList_ofList] at read
  apply inert_of_trimChars
  generalize trimChars text = trimmed at read ⊢
  split at read
  · cases read
  · rename_i inner unbracketed
    have inside : Inert inner := by
      split at read
      · obtain ⟨address, found, -⟩ := Outcome.bind_eq_ok_iff.1 read
        exact inert_of_parseAddress found
      · rename_i left right cut
        obtain ⟨first, leftFound, following⟩ := Outcome.bind_eq_ok_iff.1 read
        obtain ⟨last, rightFound, -⟩ := Outcome.bind_eq_ok_iff.1 following
        rw [(cutAt_eq_some_iff.1 cut).1, inert_append, inert_cons]
        exact ⟨inert_of_parseAddress leftFound, by decide, inert_of_parseAddress rightFound⟩
    unfold Reference.unbracketed? at unbracketed
    split at unbracketed
    · rename_i opening
      split at unbracketed
      · rename_i closing
        cases unbracketed
        obtain ⟨rest, rfl⟩ := List.head?_eq_some_iff.1 opening
        cases rest with
        | nil => exact inert_cons.2 ⟨by decide, List.forall_mem_nil _⟩
        | cons c others =>
            rw [List.getLast?_cons_cons] at closing
            obtain ⟨front, same⟩ := List.getLast?_eq_some_iff.1 closing
            rw [same, List.tail_cons, List.dropLast_concat] at inside
            rw [same, inert_cons, inert_append]
            exact ⟨by decide, inside, by decide⟩
      · cases unbracketed
    · split at unbracketed
      · cases unbracketed
      · cases unbracketed
        exact inside

end Interpolation

namespace Token

open Interpolation

theorem splitGroup_of_scanBracketed {text after : List Char} {token : Token}
    (found : scanBracketed text = .ok (token, after)) (absent : splitGroup false after = none) :
    splitGroup false ('[' :: text) = none := by
  unfold scanBracketed at found
  split at found
  · cases found
  · rename_i inside following cut
    cases read : Reference.parse (String.ofList ('[' :: inside ++ [']'])) with
    | error fault =>
        rw [read] at found
        cases found
    | ok target =>
        rw [read] at found
        cases found
        have inert := inert_of_parse read
        have whole : '[' :: text = ('[' :: inside ++ [']']) ++ after := by
          rw [(cutAt_eq_some_iff.1 cut).1]
          simp only [List.cons_append, List.append_assoc, List.nil_append]
        rw [whole]
        exact splitGroup_inert_append inert absent

theorem splitGroup_of_scanWord {text after : List Char} {token : Token}
    (found : scanWord text = .ok (token, after)) (absent : splitGroup false after = none) :
    splitGroup false text = none := by
  have word := inert_takeWhile (p := isWordChar) rfl rfl text
  rw [← List.takeWhile_append_dropWhile (p := isWordChar) (l := text)]
  apply splitGroup_inert_append word
  unfold scanWord at found
  generalize text.takeWhile isWordChar = word at found
  generalize text.dropWhile isWordChar = behind at found ⊢
  dsimp only at found
  split at found
  · cases found
    have opening : Inert ['('] := by decide
    exact splitGroup_inert_append opening absent
  · rename_i following
    split at found
    · rw [after_of_map found] at absent
      have colon : Inert [':'] := by decide
      apply splitGroup_inert_append colon
      rw [← List.takeWhile_append_dropWhile (p := isWordChar) (l := following)]
      exact splitGroup_inert_append (inert_takeWhile rfl rfl following) absent
    · cases found
      exact absent
  · split at found
    · rw [after_of_map found] at absent
      exact absent
    · cases found
      exact absent

theorem splitGroup_of_scanNumber {text after : List Char} {token : Token}
    (found : scanNumber text = .ok (token, after)) (absent : splitGroup false after = none) :
    splitGroup false text = none := by
  unfold scanNumber at found
  dsimp only at found
  split at found
  · cases found
    rw [← Numeral.scan_append text]
    exact splitGroup_inert_append (inert_numeral text) absent
  · cases found

theorem inert_of_ofChar? {c : Char} {token : Token} (known : ofChar? c = some token) :
    Inert [c] := by
  refine inert_cons.2 ⟨⟨?_, ?_⟩, List.forall_mem_nil _⟩
  · rintro rfl
    cases known
  · rintro rfl
    cases known

/-- A token ends outside of braces and quotes, if it starts there. -/
theorem Scanned.splitGroup_eq_none {c : Char} {text after : List Char} {token : Token}
    (scanned : Scanned c text token after) (absent : splitGroup false after = none) :
    splitGroup false (c :: text) = none := by
  cases scanned with
  | symbol known => exact splitGroup_inert_append (inert_of_ofChar? known) absent
  | text unknown quote found =>
      rw [quote]
      show (splitGroup true text).map _ = none
      rw [splitGroup_of_scanText found absent]
      rfl
  | number unknown noQuote starts found => exact splitGroup_of_scanNumber found absent
  | bracketed unknown noQuote noNumeral bracket found =>
      rw [bracket]
      exact splitGroup_of_scanBracketed found absent
  | word unknown noQuote noNumeral noBracket letter found =>
      exact splitGroup_of_scanWord found absent

theorem Cuts.splitGroup_eq_none {text : List Char} {tokens : List Token}
    (cuts : Cuts text tokens []) : splitGroup false text = none := by
  generalize nothing : ([] : List Char) = behind at cuts
  induction cuts with
  | done text =>
      rw [← nothing]
      rfl
  | @blank c text rest tokens blank following ih =>
      have inert : Inert [c] := inert_of_forall (p := isBlank) rfl rfl (by simp [blank])
      exact splitGroup_inert_append inert (ih nothing)
  | token dark scanned following ih => exact scanned.splitGroup_eq_none (ih nothing)

end Token

namespace Interpolation

theorem rewrite?_eq_none {body : List Char} (absent : splitGroup false body = none) :
    rewrite? (String.ofList ('=' :: body)) = none := by
  have whole : pieces body = ([], body) := by
    rw [pieces]
    split
    · rfl
    · rename_i found
      cases absent.symm.trans found
  rw [rewrite?, String.toList_ofList]
  simp only [whole]

/-- Rewriting leaves a formula that can be read as it is: there is no expression in braces to be
found, and what is read after rewriting is what is read without it. -/
theorem rewrite_of_parse {formula : String} {program : Program}
    (read : Program.parse formula = .ok program) :
    rewrite? formula = none ∧ rewrite formula = formula ∧
      Program.parse (rewrite formula) = .ok program := by
  have absent : rewrite? formula = none := by
    cases written : formula.toList with
    | nil => rw [rewrite?, written]
    | cons c body =>
        by_cases equals : c = '='
        · have same : formula = String.ofList ('=' :: body) := by
            rw [← equals, ← written, String.ofList_toList]
          rw [same] at read ⊢
          obtain ⟨-, tokens, -, cuts, -, -⟩ := parse_eq_ok_iff.1 read
          exact rewrite?_eq_none cuts.splitGroup_eq_none
        · rw [rewrite?, written]
          split
          · rename_i starts
            cases starts
            exact absurd rfl equals
          · rfl
  have unchanged : rewrite formula = formula := by rw [rewrite, absent, Option.getD_none]
  exact ⟨absent, unchanged, by rw [unchanged, read]⟩

def bracedFormula : String :=
  "=\"\x7bx\x7d \"\"\x7b\"\"\"&SUM([ A1 : b2 ],(3))&\"\x7d\""

theorem rewrite_of_parse_bracedFormula :
    ∃ program, Program.parse bracedFormula = .ok program ∧ rewrite? bracedFormula = none ∧
      rewrite bracedFormula = bracedFormula ∧
      Program.parse (rewrite bracedFormula) = .ok program := by
  have read : Program.parse bracedFormula = .ok [.literal (.text "\x7bx\x7d \"\x7b\""),
      .reference (.range (.spanning ⟨0, 0⟩ ⟨1, 1⟩)), .literal (.number (.int 3)), .call "SUM" 2,
      .operator (.binary .concat), .literal (.text "\x7d"), .operator (.binary .concat)] := by
    decide +kernel
  exact ⟨_, read, rewrite_of_parse read⟩

end Interpolation

end Spreadsheet

import Spreadsheet.Proofs.Address

/-!
References in writing. A written reference is one word, or two words with a colon between them, so
neither brackets nor blanks are lost when it is taken apart.

The main statements are that a written reference is read as the reference, with brackets around it
and without.
-/

set_option autoImplicit false

namespace Spreadsheet

open Text

namespace Reference

def Fits : Reference → Prop
  | .cell address => address.Fits
  | .range block => block.first.Fits ∧ block.last.Fits

theorem toList_text_range (block : CellRange) :
    (Reference.range block).text.toList =
      block.first.text.toList ++ ':' :: block.last.text.toList := by
  rw [text, CellRange.text, String.toList_append, String.toList_append, List.append_assoc]
  rfl

theorem wordChar_or_colon_of_mem_text (target : Reference) {c : Char}
    (member : c ∈ target.text.toList) : isWordChar c = true ∨ c = ':' := by
  cases target with
  | cell address => exact .inl (address.isWordChar_of_mem_text member)
  | range block =>
      rw [toList_text_range, List.mem_append, List.mem_cons] at member
      rcases member with first | colon | last
      · exact .inl (block.first.isWordChar_of_mem_text first)
      · exact .inr colon
      · exact .inl (block.last.isWordChar_of_mem_text last)

theorem not_mem_text (target : Reference) {c : Char} (noWord : isWordChar c = false)
    (noColon : c ≠ ':') : c ∉ target.text.toList := by
  intro member
  rcases target.wordChar_or_colon_of_mem_text member with word | colon
  · cases noWord.symm.trans word
  · exact noColon colon

theorem trimChars_text (target : Reference) :
    trimChars target.text.toList = target.text.toList := by
  have dark {c : Char} (member : c ∈ target.text.toList) : isBlank c = false := by
    rcases target.wordChar_or_colon_of_mem_text member with word | rfl
    · exact isBlank_of_isWordChar word
    · rfl
  exact trimChars_eq_self (fun _ first => dark (List.mem_of_head? first))
    (fun _ last => dark (List.mem_of_getLast? last))

theorem parseAddress_text (whole : String) {address : Address} (fits : address.Fits) :
    parseAddress whole address.text.toList = .ok address := by
  simp only [parseAddress, address.trimChars_text, address.isAddressShaped_text, if_true,
    String.ofList_toList, Address.parse_text fits]

variable {target : Reference}

theorem parse_of_unbracketed {source : String} (fits : target.Fits)
    (inside : unbracketed? (trimChars source.toList) = some target.text.toList) :
    parse source = .ok target := by
  rw [parse, inside]
  cases target with
  | cell address =>
      have noColon : cutAt ':' (Reference.cell address).text.toList = none := by
        rw [cutAt_eq_none_iff]
        intro member
        cases address.isWordChar_of_mem_text member
      simp only [noColon]
      rw [text, parseAddress_text source fits]
      rfl
  | range block =>
      have cut : cutAt ':' (Reference.range block).text.toList =
          some (block.first.text.toList, block.last.text.toList) := by
        refine cutAt_eq_some_iff.2 ⟨toList_text_range block, ?_⟩
        intro member
        cases block.first.isWordChar_of_mem_text member
      simp only [cut, parseAddress_text source fits.1, parseAddress_text source fits.2]
      show Except.ok (Reference.range (.spanning block.first block.last)) = _
      rw [CellRange.spanning_first_last]

theorem parse_text (fits : target.Fits) : parse target.text = .ok target := by
  apply parse_of_unbracketed fits
  have noOpening : target.text.toList.head? ≠ some '[' := fun first =>
    target.not_mem_text rfl (by decide) (List.mem_of_head? first)
  have noClosing : target.text.toList.getLast? ≠ some ']' := fun last =>
    target.not_mem_text rfl (by decide) (List.mem_of_getLast? last)
  rw [trimChars_text, unbracketed?, if_neg noOpening, if_neg noClosing]

theorem unbracketed?_bracketed (inner : List Char) :
    unbracketed? (trimChars ('[' :: inner ++ [']'])) = some inner := by
  have first : ('[' :: inner ++ [']']).head? = some '[' := rfl
  have last : ('[' :: inner ++ [']']).getLast? = some ']' :=
    List.getLast?_concat
  have untrimmed : trimChars ('[' :: inner ++ [']']) = '[' :: inner ++ [']'] := by
    refine trimChars_eq_self ?_ ?_
    · rw [first]
      rintro c ⟨⟩
      rfl
    · rw [last]
      rintro c ⟨⟩
      rfl
  rw [untrimmed, unbracketed?, if_pos first, if_pos last, List.cons_append, List.tail_cons,
    List.dropLast_concat]

theorem parse_bracketed (fits : target.Fits) :
    parse (String.ofList ('[' :: target.text.toList ++ [']'])) = .ok target := by
  apply parse_of_unbracketed fits
  rw [String.toList_ofList, unbracketed?_bracketed]

end Reference

end Spreadsheet

import Spreadsheet.Proofs.Address

/-!
Letters in either case. Raising the letters of a text to capitals moves no character to another
class: letters stay letters, and everything else stays what it is. A reader that asks only for
classes and for single characters that are no letters therefore goes the same way through a text and
through the text in capitals.

Outcomes are alike when both succeed with related results or both fail in the same kind. The main
statement is that a written reference is read as the same reference in either case, or is refused
in both.
-/

set_option autoImplicit false

namespace Spreadsheet

open Text

/-- The kinds of errors, which their introductions in writing tell apart. -/
inductive FormulaError.Kind where
  | writing
  | reference
  | circular
  | function
  | options
deriving DecidableEq

def FormulaError.kind : FormulaError → FormulaError.Kind
  | .writing _ => .writing
  | .reference _ => .reference
  | .circular _ => .circular
  | .function _ => .function
  | .options _ => .options

namespace Outcome

/-- Both succeed with related results, or both fail in the same kind. -/
inductive Alike {α β : Type} (Relates : α → β → Prop) : Outcome α → Outcome β → Prop
  | ok {result : α} {other : β} (related : Relates result other) :
      Alike Relates (.ok result) (.ok other)
  | error {cause another : FormulaError} (sameKind : cause.kind = another.kind) :
      Alike Relates (.error cause) (.error another)

/-- Alike, the second result being the first one changed. -/
abbrev AlikeUnder {α β : Type} (change : α → β) : Outcome α → Outcome β → Prop :=
  Alike fun result other => other = change result

variable {α β γ δ : Type} {Relates : α → β → Prop} {first : Outcome α} {second : Outcome β}

theorem Alike.imp {Wider : α → β → Prop} (alike : Alike Relates first second)
    (wider : ∀ result other, Relates result other → Wider result other) :
    Alike Wider first second := by
  cases alike with
  | ok related => exact .ok (wider _ _ related)
  | error sameKind => exact .error sameKind

theorem Alike.join {Meets : δ → β → Prop} {third : Outcome δ} (left : Alike Relates first second)
    (right : Alike Meets third second) :
    Alike (fun result other => ∃ common, Relates result common ∧ Meets other common) first
      third := by
  cases left with
  | ok related =>
      cases right with
      | ok meets => exact .ok ⟨_, related, meets⟩
  | error sameKind =>
      cases right with
      | error otherKind => exact .error (sameKind.trans otherKind.symm)

theorem Alike.bind {Following : γ → δ → Prop} {next : α → Outcome γ} {onward : β → Outcome δ}
    (alike : Alike Relates first second)
    (following : ∀ result other, first = .ok result → Relates result other →
      Alike Following (next result) (onward other)) :
    Alike Following (first >>= next) (second >>= onward) := by
  cases alike with
  | ok related => exact following _ _ rfl related
  | error sameKind => exact .error sameKind

theorem AlikeUnder.bind {change : α → β} {changeNext : γ → δ} {next : α → Outcome γ}
    {onward : β → Outcome δ} (alike : AlikeUnder change first second)
    (following : ∀ result, AlikeUnder changeNext (next result) (onward (change result))) :
    AlikeUnder changeNext (first >>= next) (second >>= onward) :=
  Alike.bind alike fun result _ _ same => same ▸ following result

theorem Alike.map {Following : γ → δ → Prop} {change : α → γ} {changeOther : β → δ}
    (alike : Alike Relates first second)
    (following : ∀ result other, first = .ok result → Relates result other →
      Following (change result) (changeOther other)) :
    Alike Following (first.map change) (second.map changeOther) := by
  cases alike with
  | ok related => exact .ok (following _ _ rfl related)
  | error sameKind => exact .error sameKind

theorem AlikeUnder.refl (outcome : Outcome α) : AlikeUnder id outcome outcome := by
  cases outcome with
  | ok result => exact .ok rfl
  | error cause => exact .error rfl

end Outcome

theorem toNat_toUpper (c : Char) :
    c.toUpper.toNat = if 97 ≤ c.toNat ∧ c.toNat ≤ 122 then c.toNat - 32 else c.toNat := by
  have lower_iff : 'a'.val ≤ c.val ∧ c.val ≤ 'z'.val ↔ 97 ≤ c.toNat ∧ c.toNat ≤ 122 := by
    rw [UInt32.le_iff_toNat_le, UInt32.le_iff_toNat_le]
    rfl
  unfold Char.toUpper
  split
  · rename_i lower
    have bounds := lower_iff.1 lower
    rw [if_pos bounds]
    show (c.val + ('A'.val - 'a'.val)).toNat = c.toNat - 32
    have distance : ('A'.val - 'a'.val).toNat = 2 ^ 32 - 32 := by decide
    rw [UInt32.toNat_add, distance]
    show (c.toNat + (2 ^ 32 - 32)) % 2 ^ 32 = c.toNat - 32
    omega
  · rename_i notLower
    rw [if_neg (mt lower_iff.2 notLower)]

theorem isAlpha_toUpper (c : Char) : c.toUpper.isAlpha = c.isAlpha := by
  rw [Bool.eq_iff_iff, isAlpha_iff_toNat, isAlpha_iff_toNat, toNat_toUpper]
  split <;> omega

theorem toUpper_of_not_isAlpha {c : Char} (other : c.isAlpha = false) : c.toUpper = c := by
  rw [← Bool.not_eq_true, isAlpha_iff_toNat] at other
  refine Char.toNat_inj.1 ?_
  rw [toNat_toUpper, if_neg (by omega)]

theorem toUpper_toUpper (c : Char) : c.toUpper.toUpper = c.toUpper := by
  refine Char.toNat_inj.1 ?_
  rw [toNat_toUpper c.toUpper, if_neg]
  rw [toNat_toUpper c]
  split <;> omega

theorem apply_toUpper {α : Type} {f : Char → α}
    (uniform : ∀ c d : Char, c.isAlpha = true → d.isAlpha = true → f c = f d) (c : Char) :
    f c.toUpper = f c := by
  cases letter : c.isAlpha with
  | false => rw [toUpper_of_not_isAlpha letter]
  | true => exact uniform _ _ ((isAlpha_toUpper c).trans letter) letter

theorem toUpper_eq_iff {c d : Char} (other : d.isAlpha = false) : c.toUpper = d ↔ c = d := by
  have uniform := apply_toUpper (f := fun c => decide (c = d)) ?_ c
  · exact decide_eq_decide.1 uniform
  · intro c c' letter letter'
    have apart {c : Char} (letter : c.isAlpha = true) : c ≠ d := by
      rintro rfl
      rw [letter] at other
      cases other
    rw [decide_eq_false (apart letter), decide_eq_false (apart letter')]

theorem toUpper_ne {c d : Char} (other : d.isAlpha = false) (apart : c ≠ d) : c.toUpper ≠ d :=
  mt (toUpper_eq_iff other).1 apart

theorem isDigit_of_isAlpha {c : Char} (letter : c.isAlpha = true) : c.isDigit = false := by
  cases digit : c.isDigit with
  | false => rfl
  | true => exact letter.symm.trans (isAlpha_of_isDigit digit)

theorem isDigit_toUpper (c : Char) : c.toUpper.isDigit = c.isDigit :=
  apply_toUpper (fun _ _ letter other =>
    (isDigit_of_isAlpha letter).trans (isDigit_of_isAlpha other).symm) c

theorem isBlank_toUpper (c : Char) : isBlank c.toUpper = isBlank c :=
  apply_toUpper (fun _ _ letter other =>
    (isBlank_of_isAlpha letter).trans (isBlank_of_isAlpha other).symm) c

theorem isWordChar_toUpper (c : Char) : isWordChar c.toUpper = isWordChar c := by
  have word {c : Char} (letter : c.isAlpha = true) : isWordChar c = true := by
    rw [isWordChar, Char.isAlphanum, letter]
    rfl
  exact apply_toUpper (fun _ _ letter other => (word letter).trans (word other).symm) c

theorem letterValue_toUpper (c : Char) : Column.letterValue c.toUpper = Column.letterValue c := by
  rw [Column.letterValue, toUpper_toUpper]
  rfl

namespace Text

def upperChars (text : List Char) : List Char :=
  text.map Char.toUpper

theorem upperChars_upperChars (text : List Char) :
    upperChars (upperChars text) = upperChars text := by
  rw [upperChars, upperChars, List.map_map]
  exact List.map_congr_left fun c _ => toUpper_toUpper c

theorem upper_ofList (text : List Char) :
    upper (String.ofList text) = String.ofList (upperChars text) := by
  rw [upper, String.toList_ofList]
  rfl

theorem upper_upper (name : String) : upper (upper name) = upper name := by
  rw [show upper name = String.ofList (upperChars name.toList) from rfl, upper_ofList,
    upperChars_upperChars]

theorem upperChars_digits {digits : List Char} (all : ∀ c ∈ digits, c.isDigit = true) :
    upperChars digits = digits := by
  have unchanged : digits.map Char.toUpper = digits.map id := List.map_congr_left fun c member =>
    toUpper_of_not_isAlpha (isAlpha_of_isDigit (all c member))
  exact unchanged.trans (List.map_id _)

section Classes

variable {p : Char → Bool} (blind : ∀ c, p c.toUpper = p c) (text : List Char)

include blind

theorem takeWhile_upperChars :
    (upperChars text).takeWhile p = upperChars (text.takeWhile p) := by
  rw [upperChars, List.takeWhile_map, show p ∘ Char.toUpper = p from funext blind]
  rfl

theorem dropWhile_upperChars :
    (upperChars text).dropWhile p = upperChars (text.dropWhile p) := by
  rw [upperChars, List.dropWhile_map, show p ∘ Char.toUpper = p from funext blind]
  rfl

theorem all_upperChars : (upperChars text).all p = text.all p := by
  rw [upperChars, List.all_map, show p ∘ Char.toUpper = p from funext blind]

end Classes

theorem trimChars_upperChars (text : List Char) :
    trimChars (upperChars text) = upperChars (trimChars text) := by
  have skip (text : List Char) : skipBlanks (upperChars text) = upperChars (skipBlanks text) :=
    dropWhile_upperChars isBlank_toUpper text
  have reverse (text : List Char) : (upperChars text).reverse = upperChars text.reverse :=
    List.map_reverse.symm
  rw [trimChars, skip, reverse, skip, reverse]
  rfl

theorem mem_upperChars {c : Char} (other : c.isAlpha = false) (text : List Char) :
    c ∈ upperChars text ↔ c ∈ text := by
  simp only [upperChars, List.mem_map, toUpper_eq_iff other, exists_eq_right]

theorem cutAt_upperChars {separator : Char} (other : separator.isAlpha = false)
    (text : List Char) :
    cutAt separator (upperChars text) =
      (cutAt separator text).map fun parts => (upperChars parts.1, upperChars parts.2) := by
  induction text with
  | nil => rfl
  | cons c rest ih =>
      rw [upperChars, List.map_cons, ← upperChars, cutAt, cutAt, if_congr (toUpper_eq_iff other)
        rfl rfl, ih]
      split
      · rfl
      · cases cutAt separator rest <;> rfl

end Text

theorem isAddressShaped_upperChars (text : List Char) :
    isAddressShaped (upperChars text) = isAddressShaped text := by
  simp only [isAddressShaped, takeWhile_upperChars isAlpha_toUpper,
    dropWhile_upperChars isAlpha_toUpper, all_upperChars isDigit_toUpper]
  simp only [upperChars, List.isEmpty_map]

namespace Column

theorem value_upperChars (letters : List Char) : value (upperChars letters) = value letters := by
  rw [value, upperChars, List.foldl_map]
  simp only [letterValue_toUpper]
  rfl

theorem read_upperChars (letters : List Char) (column : Nat) :
    read (upperChars letters) = .ok column ↔ read letters = .ok column := by
  rw [read_eq_ok_iff, read_eq_ok_iff, value_upperChars]
  simp only [upperChars, ne_eq, List.map_eq_nil_iff, List.forall_mem_map, isAlpha_toUpper]

end Column

namespace Address

theorem readRow_upperChars (address other : String) (digits : List Char) (row : Nat) :
    readRow other (upperChars digits) = .ok row ↔ readRow address digits = .ok row := by
  have sameDigits :
      (∀ c ∈ upperChars digits, c.isDigit = true) ↔ ∀ c ∈ digits, c.isDigit = true := by
    simp only [upperChars, List.forall_mem_map, isDigit_toUpper]
  rw [readRow_eq_ok_iff, readRow_eq_ok_iff, sameDigits]
  refine and_congr (by simp [upperChars]) (and_congr_right fun allDigits => ?_)
  rw [upperChars_digits allDigits]

theorem parse_eq_ok_iff {source : String} {address : Address} :
    parse source = .ok address ↔
      ∃ column row, Column.read ((trimChars source.toList).takeWhile Char.isAlpha) = .ok column ∧
        readRow (trim source) ((trimChars source.toList).dropWhile Char.isAlpha) = .ok row ∧
        { row := row - 1, column := column - 1 : Address } = address := by
  have characters : (trim source).toList = trimChars source.toList := String.toList_ofList
  rw [parse, characters]
  generalize trimChars source.toList = trimmed
  split
  · rename_i nothing
    simp [nothing, Column.read]
  split
  · rename_i noColumn
    simp [noColumn, Column.read]
  · cases Column.read (trimmed.takeWhile Char.isAlpha) with
    | error fault => simp
    | ok column =>
        cases readRow (trim source) (trimmed.dropWhile Char.isAlpha) with
        | error fault => simp
        | ok row => simp

theorem parse_upperChars (text : List Char) (address : Address) :
    parse (String.ofList (upperChars text)) = .ok address ↔
      parse (String.ofList text) = .ok address := by
  simp only [parse_eq_ok_iff, String.toList_ofList, trimChars_upperChars,
    takeWhile_upperChars isAlpha_toUpper, dropWhile_upperChars isAlpha_toUpper,
    Column.read_upperChars, readRow_upperChars (trim (String.ofList text))]

end Address

namespace Reference

theorem unbracketed?_upperChars (text : List Char) :
    unbracketed? (upperChars text) = (unbracketed? text).map upperChars := by
  have opening : (upperChars text).head? = some '[' ↔ text.head? = some '[' := by
    simp only [upperChars, List.head?_map, Option.map_eq_some_iff, toUpper_eq_iff (d := '[') rfl,
      exists_eq_right]
  have closing : (upperChars text).getLast? = some ']' ↔ text.getLast? = some ']' := by
    simp only [upperChars, List.getLast?_map, Option.map_eq_some_iff,
      toUpper_eq_iff (d := ']') rfl, exists_eq_right]
  have inner : (upperChars text).tail.dropLast = upperChars text.tail.dropLast := by
    rw [upperChars, ← List.map_tail, ← List.map_dropLast]
    rfl
  rw [unbracketed?, unbracketed?, if_congr opening rfl (if_congr closing rfl rfl),
    if_congr closing rfl rfl, inner]
  split <;> split <;> rfl

theorem parseAddress_upperChars (whole other : String) (text : List Char) :
    Outcome.AlikeUnder id (parseAddress whole text) (parseAddress other (upperChars text)) := by
  rw [parseAddress, parseAddress, trimChars_upperChars, isAddressShaped_upperChars]
  split
  · have same := Address.parse_upperChars (trimChars text)
    cases read : Address.parse (String.ofList (trimChars text)) with
    | ok address =>
        rw [(same address).2 read]
        exact .ok rfl
    | error cause =>
        cases again : Address.parse (String.ofList (upperChars (trimChars text))) with
        | ok address => exact nomatch read.symm.trans ((same address).1 again)
        | error another => exact .error rfl
  · exact .error rfl

theorem parse_upperChars (text : List Char) :
    Outcome.AlikeUnder id (parse (String.ofList text))
      (parse (String.ofList (upperChars text))) := by
  rw [parse, parse, String.toList_ofList, String.toList_ofList, trimChars_upperChars,
    unbracketed?_upperChars]
  cases unbracketed? (trimChars text) with
  | none => exact .error rfl
  | some inner =>
      simp only [Option.map_some, cutAt_upperChars (show Char.isAlpha ':' = false from rfl)]
      cases cutAt ':' inner with
      | none => exact .bind (parseAddress_upperChars _ _ inner) fun _ => .ok rfl
      | some parts =>
          refine .bind (parseAddress_upperChars _ _ parts.1) fun _ => ?_
          exact .bind (parseAddress_upperChars _ _ parts.2) fun _ => .ok rfl

end Reference

end Spreadsheet

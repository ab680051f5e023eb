import Spreadsheet.Proofs.Arithmetic
import Spreadsheet.Proofs.Numeral

/-!
Numbers with separators. A number is written with at most one point and without commas, so the
separators can be told from the rest of the text: they can be taken out again, and the two formats
have the same text up to an exchange of commas and points. The groups are found from the front by
the number of digits that are left, which puts them where counting from the right does.
-/

set_option autoImplicit false

namespace Spreadsheet

open Text

/-- A number in writing: a sign, at least one digit and, behind a point, at least one more. -/
structure PlainNumber where
  negative : Bool
  whole : List Char
  fraction : Option (List Char)
  whole_ne_nil : whole ≠ []
  isDigit_of_mem_whole : ∀ c ∈ whole, c.isDigit = true
  fraction_ne_nil : ∀ digits ∈ fraction, digits ≠ []
  isDigit_of_mem_fraction : ∀ digits ∈ fraction, ∀ c ∈ digits, c.isDigit = true

namespace PlainNumber

def sign (plain : PlainNumber) : List Char :=
  if plain.negative then ['-'] else []

def tail (plain : PlainNumber) (decimal : Char) : List Char :=
  match plain.fraction with
  | none => []
  | some digits => decimal :: digits

def text (plain : PlainNumber) : List Char :=
  plain.sign ++ (plain.whole ++ plain.tail '.')

def ofInt (n : Int) : PlainNumber where
  negative := decide (n < 0)
  whole := Nat.toDigits 10 n.natAbs
  fraction := none
  whole_ne_nil := Nat.toDigits_ne_nil
  isDigit_of_mem_whole := fun _ member => Nat.isDigit_of_mem_toDigits (by decide) (by decide) member
  fraction_ne_nil := nofun
  isDigit_of_mem_fraction := nofun

theorem text_ofInt (n : Int) :
    (ofInt n).text =
      if n < 0 then '-' :: Nat.toDigits 10 n.natAbs else Nat.toDigits 10 n.natAbs := by
  rw [text, sign, tail, ofInt, List.append_nil]
  by_cases negative : n < 0
  · rw [if_pos (decide_eq_true negative), if_pos negative]
    rfl
  · rw [if_neg (by simp [negative]), if_neg negative]
    rfl

theorem ofList_text_ofInt (n : Int) : String.ofList (ofInt n).text = Int.repr n := by
  rw [repr_eq_ofList, text_ofInt]

end PlainNumber

namespace Separators

/-- The first group has the digits that are left when the others have three each. -/
theorem groupByThree_eq (separator : Char) {digits : List Char} (someDigit : digits ≠ []) :
    ∃ (first : List Char) (groups : List (List Char)),
      first.length = (digits.length - 1) % 3 + 1 ∧ (∀ group ∈ groups, group.length = 3) ∧
      first ++ groups.flatten = digits ∧
      groupByThree separator digits = first ++ groups.flatMap (separator :: ·) := by
  induction digits with
  | nil => exact absurd rfl someDigit
  | cons digit rest ih =>
      by_cases last : rest = []
      · refine ⟨[digit], [], ?_⟩
        simp [last, groupByThree]
      · obtain ⟨first, groups, size, threes, joined, grouped⟩ := ih last
        have length := List.length_pos_iff.2 last
        by_cases threeLeft : rest.length % 3 = 0
        · refine ⟨[digit], first :: groups, ?_, ?_, ?_, ?_⟩
          · simp only [List.length_cons, List.length_nil]
            omega
          · intro group member
            rcases List.mem_cons.1 member with rfl | later
            · omega
            · exact threes group later
          · rw [List.flatten_cons, joined]
            rfl
          · rw [groupByThree, if_pos (by simp [last, threeLeft]), grouped]
            rfl
        · refine ⟨digit :: first, groups, ?_, threes, ?_, ?_⟩
          · simp only [List.length_cons]
            omega
          · rw [List.cons_append, joined]
          · rw [groupByThree, if_neg (by simp [threeLeft]), grouped]
            rfl

theorem map_groupByThree (f : Char → Char) (separator : Char) (digits : List Char) :
    (groupByThree separator digits).map f = groupByThree (f separator) (digits.map f) := by
  induction digits with
  | nil => rfl
  | cons digit rest ih =>
      rw [List.map_cons, groupByThree, groupByThree, List.length_map, List.isEmpty_map]
      split
      · rw [List.map_cons, List.map_cons, ih]
      · rw [List.map_cons, ih]

variable {separators : Separators}

theorem groupUnsigned_of_not_mem {whole : List Char} (absent : '.' ∉ whole) :
    separators.groupUnsigned whole = groupByThree separators.thousands whole := by
  rw [groupUnsigned, (cutAt_eq_none_iff '.' whole).2 absent]

theorem groupUnsigned_of_point {whole : List Char} (absent : '.' ∉ whole) (fraction : List Char) :
    separators.groupUnsigned (whole ++ '.' :: fraction) =
      groupByThree separators.thousands whole ++ separators.decimal :: fraction := by
  rw [groupUnsigned, cutAt_eq_some_iff.2 ⟨rfl, absent⟩]

/-- Delete the separators of the groups and turn the decimal separator into a point. -/
def ungroup (separators : Separators) (text : List Char) : List Char :=
  (text.filter (· != separators.thousands)).map fun c => if c = separators.decimal then '.' else c

def Solid (separators : Separators) (c : Char) : Prop :=
  c ≠ separators.thousands ∧ c ≠ separators.decimal

instance (separators : Separators) (c : Char) : Decidable (separators.Solid c) :=
  inferInstanceAs (Decidable (_ ∧ _))

theorem ungroup_append (first second : List Char) :
    separators.ungroup (first ++ second) =
      separators.ungroup first ++ separators.ungroup second := by
  rw [ungroup, List.filter_append, List.map_append]
  rfl

theorem ungroup_of_solid {text : List Char} (solid : ∀ c ∈ text, separators.Solid c) :
    separators.ungroup text = text := by
  have kept : text.filter (· != separators.thousands) = text :=
    List.filter_eq_self.2 fun c member => bne_iff_ne.2 (solid c member).1
  rw [ungroup, kept]
  refine (List.map_congr_left fun c member => ?_).trans (List.map_id text)
  exact if_neg (solid c member).2

theorem ungroup_groupByThree {digits : List Char} (solid : ∀ c ∈ digits, separators.Solid c) :
    separators.ungroup (groupByThree separators.thousands digits) = digits := by
  have absent : separators.thousands ∉ digits := fun member => (solid _ member).1 rfl
  rw [ungroup, filter_groupByThree absent]
  refine (List.map_congr_left fun c member => ?_).trans (List.map_id digits)
  exact if_neg (solid c member).2

end Separators

namespace PlainNumber

variable {separators : Separators} (plain : PlainNumber)

theorem group_text :
    separators.group plain.text =
      plain.sign ++
        (Separators.groupByThree separators.thousands plain.whole ++
          plain.tail separators.decimal) := by
  have unsigned : separators.groupUnsigned (plain.whole ++ plain.tail '.') =
      Separators.groupByThree separators.thousands plain.whole ++
        plain.tail separators.decimal := by
    have absent : '.' ∉ plain.whole := fun member => nomatch plain.isDigit_of_mem_whole _ member
    unfold tail
    cases plain.fraction with
    | none => rw [List.append_nil, List.append_nil, Separators.groupUnsigned_of_not_mem absent]
    | some digits => exact Separators.groupUnsigned_of_point absent digits
  rw [text, sign]
  cases plain.negative with
  | true => exact congrArg ('-' :: ·) unsigned
  | false =>
      obtain ⟨first, others, whole⟩ := List.exists_cons_of_ne_nil plain.whole_ne_nil
      have digit := plain.isDigit_of_mem_whole first (whole ▸ List.mem_cons_self)
      refine Eq.trans ?_ unsigned
      rw [whole]
      refine Separators.group.eq_2 _ _ ?_
      rintro rest ⟨⟩
      cases digit

theorem ungroup_group_text (apart : separators.decimal ≠ separators.thousands)
    (minus : separators.Solid '-') (digits : ∀ c : Char, c.isDigit = true → separators.Solid c) :
    separators.ungroup (separators.group plain.text) = plain.text := by
  have signKept : separators.ungroup plain.sign = plain.sign := by
    refine Separators.ungroup_of_solid fun c member => ?_
    unfold sign at member
    split at member
    · rwa [List.mem_singleton.1 member]
    · cases member
  have wholeKept : separators.ungroup (Separators.groupByThree separators.thousands plain.whole) =
      plain.whole :=
    Separators.ungroup_groupByThree fun c member => digits c (plain.isDigit_of_mem_whole c member)
  have tailKept : separators.ungroup (plain.tail separators.decimal) = plain.tail '.' := by
    unfold tail
    cases fraction : plain.fraction with
    | none => rfl
    | some written =>
        have kept := Separators.ungroup_of_solid fun c member =>
          digits c (plain.isDigit_of_mem_fraction written fraction c member)
        have point : separators.ungroup [separators.decimal] = ['.'] := by
          simp [Separators.ungroup, apart]
        change separators.ungroup ([separators.decimal] ++ written) = ['.'] ++ written
        rw [Separators.ungroup_append, point, kept]
  rw [group_text, Separators.ungroup_append, Separators.ungroup_append, signKept, wholeKept,
    tailKept, text]

end PlainNumber

namespace Separators

/-- A text with no comma and at most one point. -/
inductive OnePoint : List Char → Prop where
  | whole {text : List Char} (solid : ∀ c ∈ text, commaPoint.Solid c) : OnePoint text
  | pointed {whole fraction : List Char} (solidWhole : ∀ c ∈ whole, commaPoint.Solid c)
      (solidFraction : ∀ c ∈ fraction, commaPoint.Solid c) : OnePoint (whole ++ '.' :: fraction)

theorem solid_minus : commaPoint.Solid '-' :=
  ⟨by decide, by decide⟩

theorem solid_of_isDigit {c : Char} (digit : c.isDigit = true) : commaPoint.Solid c := by
  constructor
  · rintro rfl
    cases digit
  · rintro rfl
    cases digit

theorem solid_of_mem_toDigits {n : Nat} {c : Char} (member : c ∈ Nat.toDigits 10 n) :
    commaPoint.Solid c :=
  solid_of_isDigit (Nat.isDigit_of_mem_toDigits (by decide) (by decide) member)

theorem solid_of_mem_zeros {count : Nat} {c : Char} (member : c ∈ List.replicate count '0') :
    commaPoint.Solid c := by
  rw [List.eq_of_mem_replicate member]
  exact solid_of_isDigit rfl

theorem OnePoint.minus {text : List Char} (onePoint : OnePoint text) : OnePoint ('-' :: text) := by
  cases onePoint with
  | whole solid => exact .whole (List.forall_mem_cons.2 ⟨solid_minus, solid⟩)
  | pointed solidWhole solidFraction =>
      exact .pointed (List.forall_mem_cons.2 ⟨solid_minus, solidWhole⟩) solidFraction

theorem OnePoint.signed {text : List Char} (onePoint : OnePoint text) (negative : Bool) :
    OnePoint (if negative then '-' :: text else text) := by
  cases negative with
  | false => exact onePoint
  | true => exact onePoint.minus

theorem OnePoint.of_minus {text : List Char} (onePoint : OnePoint ('-' :: text)) :
    OnePoint text := by
  generalize signed : '-' :: text = whole at onePoint
  cases onePoint with
  | whole solid =>
      subst signed
      exact .whole (List.forall_mem_cons.1 solid).2
  | @pointed before fraction solidWhole solidFraction =>
      cases before with
      | nil => cases signed
      | cons c rest =>
          cases signed
          exact .pointed (List.forall_mem_cons.1 solidWhole).2 solidFraction

def exchanged (c : Char) : Char :=
  if c = ',' then '.' else if c = '.' then ',' else c

theorem map_exchanged {text : List Char} (solid : ∀ c ∈ text, commaPoint.Solid c) :
    text.map exchanged = text := by
  refine (List.map_congr_left fun c member => ?_).trans (List.map_id text)
  exact (if_neg (solid c member).1).trans (if_neg (solid c member).2)

theorem groupUnsigned_pointComma {text : List Char} (onePoint : OnePoint text) :
    pointComma.groupUnsigned text = (commaPoint.groupUnsigned text).map exchanged := by
  cases onePoint with
  | whole solid =>
      have absent : '.' ∉ text := fun member => (solid _ member).2 rfl
      rw [groupUnsigned_of_not_mem absent, groupUnsigned_of_not_mem absent, map_groupByThree,
        map_exchanged solid]
      rfl
  | @pointed whole fraction solidWhole solidFraction =>
      have absent : '.' ∉ whole := fun member => (solidWhole _ member).2 rfl
      rw [groupUnsigned_of_point absent, groupUnsigned_of_point absent, List.map_append,
        List.map_cons, map_groupByThree, map_exchanged solidWhole, map_exchanged solidFraction]
      rfl

theorem group_pointComma {text : List Char} (onePoint : OnePoint text) :
    pointComma.group text = (commaPoint.group text).map exchanged := by
  unfold group
  split
  · rw [List.map_cons, groupUnsigned_pointComma onePoint.of_minus]
    rfl
  · exact groupUnsigned_pointComma onePoint

end Separators

section Written

open Separators

theorem onePoint_fixed (places numerator denominator : Nat) :
    OnePoint (Decimal.fixed places numerator denominator) := by
  have solid : ∀ c ∈ List.replicate (places + 1 - (Nat.toDigits 10 (Decimal.roundHalfEven
      (numerator * Nat.pow 10 places) denominator)).length) '0' ++ Nat.toDigits 10
      (Decimal.roundHalfEven (numerator * Nat.pow 10 places) denominator), commaPoint.Solid c :=
    List.forall_mem_append.2
      ⟨fun _ member => solid_of_mem_zeros member, fun _ member => solid_of_mem_toDigits member⟩
  exact .pointed (fun c member => solid c (List.mem_of_mem_take member))
    fun c member => solid c (List.mem_of_mem_drop member)

theorem onePoint_positional (decimal : Decimal.Scaled) :
    OnePoint (Decimal.positional decimal) := by
  have solid : ∀ c ∈ ((Nat.toDigits 10 decimal.digits).reverse.dropWhile (· == '0')).reverse,
      commaPoint.Solid c := by
    intro c member
    have kept := List.mem_reverse.1 member
    exact solid_of_mem_toDigits (List.mem_reverse.1 ((List.dropWhile_sublist _).subset kept))
  unfold Decimal.positional
  dsimp only
  split
  · exact .whole (List.forall_mem_append.2 ⟨solid, fun _ member => solid_of_mem_zeros member⟩)
  · split
    · exact .pointed (fun c member => solid c (List.mem_of_mem_take member))
        fun c member => solid c (List.mem_of_mem_drop member)
    · change OnePoint (['0'] ++ '.' :: (List.replicate _ '0' ++ _))
      exact .pointed (List.forall_mem_singleton.2 (solid_of_isDigit rfl))
        (List.forall_mem_append.2 ⟨fun _ member => solid_of_mem_zeros member, solid⟩)

theorem onePoint_floatText (x : Float) : OnePoint (Decimal.floatText x).toList := by
  have nan : ∀ c ∈ ['N', 'a', 'N'], commaPoint.Solid c := by simp [Solid, commaPoint]
  have infinite : ∀ c ∈ ['i', 'n', 'f'], commaPoint.Solid c := by simp [Solid, commaPoint]
  unfold Decimal.floatText
  split
  · exact .whole nan
  · rw [String.toList_ofList]
    refine OnePoint.signed ?_ _
    split
    · exact .whole infinite
    · split
      · exact .whole (List.forall_mem_singleton.2 (solid_of_isDigit rfl))
      · exact onePoint_positional _

theorem onePoint_fixedFloat (places : Nat) (x : Float) :
    OnePoint (Decimal.fixedFloat places x).toList := by
  unfold Decimal.fixedFloat
  rw [String.toList_ofList]
  exact (onePoint_fixed _ _ _).signed _

theorem onePoint_repr (n : Int) : OnePoint (Int.repr n).toList := by
  have magnitude : OnePoint (Nat.toDigits 10 n.natAbs) :=
    .whole fun _ member => solid_of_mem_toDigits member
  rw [repr_eq_ofList, String.toList_ofList]
  split
  · exact magnitude.minus
  · exact magnitude

theorem onePoint_text (n : Number) : OnePoint n.text.toList := by
  cases n with
  | int n => exact onePoint_repr n.toInt
  | float x =>
      rw [Number.text]
      split
      · exact onePoint_repr _
      · exact onePoint_floatText x
  | negativeNaN => exact onePoint_floatText Binary64.nan

theorem onePoint_plainNumber {arguments : List Value} {text : String}
    (found : Function.plainNumber arguments = .ok text) : OnePoint text.toList := by
  unfold Function.plainNumber at found
  simp only [Outcome.bind_eq_ok_iff] at found
  obtain ⟨value, -, number, -, found⟩ := found
  split at found
  · cases found
    exact onePoint_text number
  · simp only [Outcome.bind_eq_ok_iff] at found
    obtain ⟨digits, -, rounded, -, found⟩ := found
    split at found
    · cases found
      exact onePoint_fixedFloat _ _
    · cases found
      exact onePoint_text rounded

end Written

namespace Value

def exchanged : Value → Value
  | .text written => .text (String.ofList (written.toList.map Separators.exchanged))
  | .number n => .number n

end Value

namespace Function

open Separators

theorem numberFormat_pointComma (context : Context) (arguments : List Value) :
    numberFormat .pointComma context arguments =
      (numberFormat .commaPoint context arguments).map Value.exchanged := by
  unfold numberFormat
  cases written : plainNumber arguments with
  | error error => rfl
  | ok text =>
      have grouped := group_pointComma (onePoint_plainNumber written)
      rw [Outcome.ok_bind, Outcome.ok_bind, grouped]
      change _ = Except.ok (Value.exchanged (.text _))
      rw [Value.exchanged, String.toList_ofList]
      rfl

theorem callFunction_numberFormat {arguments : List Value}
    (counted : 1 ≤ arguments.length ∧ arguments.length ≤ 2) (context : Context) :
    callFunction context "NUMBER_FORMAT" arguments = numberFormat .commaPoint context arguments ∧
      callFunction context "NUMBER_FORMAT_EU" arguments =
        numberFormat .pointComma context arguments := by
  have found : Registry.standard.get? "NUMBER_FORMAT" =
      some ⟨"NUMBER_FORMAT", 1, some 2, numberFormat .commaPoint⟩ := rfl
  have foundEu : Registry.standard.get? "NUMBER_FORMAT_EU" =
      some ⟨"NUMBER_FORMAT_EU", 1, some 2, numberFormat .pointComma⟩ := rfl
  have limit : ∀ maximum ∈ some 2, arguments.length ≤ maximum :=
    fun _ two => Option.some.inj two ▸ counted.2
  exact ⟨callFunction_of_get? found ((checkCount_eq_ok_iff _ _).2 ⟨counted.1, limit⟩) context,
    callFunction_of_get? foundEu ((checkCount_eq_ok_iff _ _).2 ⟨counted.1, limit⟩) context⟩

theorem callFunction_numberFormat_int (context : Context) (n : Int64) :
    callFunction context "NUMBER_FORMAT" [.int n] =
      .ok (.text (String.ofList (commaPoint.group (PlainNumber.ofInt n.toInt).text))) := by
  have written : (Int.repr n.toInt).toList = (PlainNumber.ofInt n.toInt).text := by
    rw [← PlainNumber.ofList_text_ofInt, String.toList_ofList]
  have counted : 1 ≤ [Value.int n].length ∧ [Value.int n].length ≤ 2 :=
    ⟨Nat.le_refl 1, Nat.le_succ 1⟩
  rw [(callFunction_numberFormat counted context).1, ← written]
  rfl

end Function

namespace Separators

/-- What grouping makes of a number: the sign stays in front, a group of one to three digits is
followed by groups of three, the fraction stays together, and nothing is lost. -/
structure Lossless (separators : Separators) (plain : PlainNumber) : Prop where
  placed : ∃ (first : List Char) (groups : List (List Char)),
    1 ≤ first.length ∧ first.length ≤ 3 ∧ (∀ group ∈ groups, group.length = 3) ∧
      first ++ groups.flatten = plain.whole ∧
      separators.group plain.text =
        plain.sign ++
          ((first ++ groups.flatMap (separators.thousands :: ·)) ++
            plain.tail separators.decimal)
  restored : separators.ungroup (separators.group plain.text) = plain.text

theorem lossless {separators : Separators} (apart : separators.decimal ≠ separators.thousands)
    (minus : separators.Solid '-') (digits : ∀ c : Char, c.isDigit = true → separators.Solid c)
    (plain : PlainNumber) : separators.Lossless plain where
  placed := by
    obtain ⟨first, groups, size, threes, joined, grouped⟩ :=
      groupByThree_eq separators.thousands plain.whole_ne_nil
    refine ⟨first, groups, by omega, by omega, threes, joined, ?_⟩
    rw [plain.group_text, grouped]
  restored := plain.ungroup_group_text apart minus digits

theorem lossless_commaPoint (plain : PlainNumber) : commaPoint.Lossless plain :=
  lossless (by decide) solid_minus (fun _ digit => solid_of_isDigit digit) plain

theorem lossless_pointComma (plain : PlainNumber) : pointComma.Lossless plain :=
  lossless (by decide) (by decide)
    (fun c digit => show pointComma.Solid c from (solid_of_isDigit digit).symm) plain

theorem ungroup_commaPoint (text : List Char) :
    commaPoint.ungroup text = text.filter (· != ',') := by
  refine (List.map_congr_left fun c _ => ?_).trans (List.map_id _)
  change (if c = '.' then '.' else c) = c
  split
  · rename_i point
    exact point.symm
  · rfl

end Separators

open Separators

/-- Grouping in either format loses nothing and puts the separators where they belong. So a grouped
integer is the integer when its commas are deleted. The two functions differ by an exchange of
commas and points only, whatever their arguments are. -/
theorem numberFormat_lossless {separators : Separators}
    (eitherFormat : separators = .commaPoint ∨ separators = .pointComma) (plain : PlainNumber)
    (context : Context) (n : Int64) (arguments : List Value) :
    separators.Lossless plain ∧
      (∃ text, callFunction context "NUMBER_FORMAT" [.int n] = .ok (.text text) ∧
        String.ofList (text.toList.filter (· != ',')) = Int.repr n.toInt) ∧
      Function.numberFormat .pointComma context arguments =
        (Function.numberFormat .commaPoint context arguments).map Value.exchanged ∧
      (1 ≤ arguments.length ∧ arguments.length ≤ 2 →
        callFunction context "NUMBER_FORMAT_EU" arguments =
          (callFunction context "NUMBER_FORMAT" arguments).map Value.exchanged) := by
  refine ⟨?_, ?_, Function.numberFormat_pointComma context arguments, fun counted => ?_⟩
  · rcases eitherFormat with rfl | rfl
    · exact lossless_commaPoint plain
    · exact lossless_pointComma plain
  · refine ⟨_, Function.callFunction_numberFormat_int context n, ?_⟩
    rw [String.toList_ofList, ← ungroup_commaPoint, (lossless_commaPoint _).restored,
      PlainNumber.ofList_text_ofInt]
  · obtain ⟨american, european⟩ := Function.callFunction_numberFormat counted context
    rw [american, european, Function.numberFormat_pointComma]

/-- The least integer, and a number with a sign and a fraction. -/
theorem numberFormat_lossless_least :
    (pointComma = .commaPoint ∨ pointComma = .pointComma) ∧
      pointComma.group "-1234567.05".toList = "-1.234.567,05".toList ∧
      pointComma.ungroup (pointComma.group "-1234567.05".toList) = "-1234567.05".toList ∧
      (∃ text, callFunction Context.bare "NUMBER_FORMAT" [.int Int64.minValue] = .ok (.text text) ∧
        String.ofList (text.toList.filter (· != ',')) = "-9223372036854775808") ∧
      (1 ≤ [Value.int Int64.minValue].length ∧ [Value.int Int64.minValue].length ≤ 2) ∧
      callFunction Context.bare "NUMBER_FORMAT_EU" [.int Int64.minValue] =
        (callFunction Context.bare "NUMBER_FORMAT" [.int Int64.minValue]).map Value.exchanged := by
  have format : pointComma = .commaPoint ∨ pointComma = .pointComma := .inr rfl
  have counted : 1 ≤ [Value.int Int64.minValue].length ∧ [Value.int Int64.minValue].length ≤ 2 :=
    by decide
  let plain : PlainNumber :=
    { negative := true
      whole := "1234567".toList
      fraction := some "05".toList
      whole_ne_nil := nofun
      isDigit_of_mem_whole := List.all_eq_true.1 rfl
      fraction_ne_nil := by
        rintro digits ⟨⟩
        exact nofun
      isDigit_of_mem_fraction := by
        rintro digits ⟨⟩
        exact List.all_eq_true.1 rfl }
  obtain ⟨lossless, least, -, european⟩ :=
    numberFormat_lossless format plain Context.bare Int64.minValue [.int Int64.minValue]
  exact ⟨format, by decide, lossless.restored, least, counted, european counted⟩

end Spreadsheet

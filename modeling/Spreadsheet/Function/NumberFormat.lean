import Spreadsheet.Function.Rounding

/-!
Numbers with separators. The digits before the point are grouped by three from the right; a
sign stays in front and the digits after the point stay together. The two formats differ only in
the characters that separate. The main statement is that without its separators a grouped number
is the number.
-/

set_option autoImplicit false

namespace Spreadsheet

structure Separators where
  thousands : Char
  decimal : Char
deriving DecidableEq

namespace Separators

def commaPoint : Separators := { thousands := ',', decimal := '.' }

def pointComma : Separators := { thousands := '.', decimal := ',' }

/-- Digits in groups of three from the right: a separator stands before every three of them,
except in front. -/
def groupByThree (separator : Char) : List Char → List Char
  | [] => []
  | digit :: rest =>
      if !rest.isEmpty && rest.length % 3 = 0 then digit :: separator :: groupByThree separator rest
      else digit :: groupByThree separator rest

def groupUnsigned (separators : Separators) (plain : List Char) : List Char :=
  match Text.cutAt '.' plain with
  | none => groupByThree separators.thousands plain
  | some (whole, fraction) =>
      groupByThree separators.thousands whole ++ separators.decimal :: fraction

def group (separators : Separators) (plain : List Char) : List Char :=
  match plain with
  | '-' :: unsigned => '-' :: separators.groupUnsigned unsigned
  | unsigned => separators.groupUnsigned unsigned

theorem filter_groupByThree {separator : Char} {digits : List Char} (h : separator ∉ digits) :
    (groupByThree separator digits).filter (· != separator) = digits := by
  induction digits with
  | nil => rfl
  | cons digit rest ih =>
      simp only [List.mem_cons, not_or] at h
      have differs : (digit != separator) = true := by simpa using Ne.symm h.1
      simp only [groupByThree]
      split <;> simp [differs, ih h.2]

end Separators

namespace Function

/-- The written number: with a second argument it is rounded to as many digits and shows them
all. -/
def plainNumber (arguments : List Value) : Outcome String := do
  let number ← (← argument arguments 0).toNumber
  if arguments.length < 2 then return number.text
  let digits ← digitCount arguments 1
  let rounded ← number.roundTo .halfAway digits
  if 0 < digits then return Decimal.fixedFloat digits.toNat rounded.toFloat
  return rounded.text

def numberFormat (separators : Separators) : Rule := fun _ arguments => do
  let plain ← plainNumber arguments
  return .text (String.ofList (separators.group plain.toList))

end Function

end Spreadsheet

import Spreadsheet.Decimal.Nearest
import Spreadsheet.Number
import Spreadsheet.Text.Blank

/-!
Written numbers. A numeral has digits, then perhaps a point with digits, then perhaps an exponent;
there is at least one digit before or right after the point, and an exponent counts only when
it has digits. A cell holds a number when its trimmed text is a numeral with at most one sign in
front. A numeral without point and exponent is an exact integer if it fits, and every other one
is the nearest floating-point number, if that is finite. The main statement is that scanning
loses no character.
-/

set_option autoImplicit false

namespace Spreadsheet

open Text

structure Exponent where
  mark : Char
  sign : Option Char
  digits : List Char
deriving DecidableEq

structure Numeral where
  whole : List Char
  fraction : Option (List Char)
  exponent : Option Exponent
deriving DecidableEq

namespace Exponent

def text (exponent : Exponent) : List Char :=
  exponent.mark :: exponent.sign.toList ++ exponent.digits

def value (exponent : Exponent) : Int :=
  let magnitude := Nat.ofDigitChars 10 exponent.digits 0
  if exponent.sign = some '-' then Int.negOfNat magnitude else magnitude

def scanSign : List Char → Option Char × List Char
  | [] => (none, [])
  | c :: rest => if c = '+' || c = '-' then (some c, rest) else (none, c :: rest)

def scan : List Char → Option Exponent × List Char
  | [] => (none, [])
  | mark :: rest =>
      let (sign, unsigned) := scanSign rest
      let digits := unsigned.takeWhile Char.isDigit
      if (mark = 'e' || mark = 'E') && !digits.isEmpty then
        (some { mark, sign, digits }, unsigned.dropWhile Char.isDigit)
      else (none, mark :: rest)

end Exponent

namespace Numeral

def text (numeral : Numeral) : List Char :=
  numeral.whole ++ (numeral.fraction.map ('.' :: ·)).getD [] ++
    (numeral.exponent.map Exponent.text).getD []

def startsAt : List Char → Bool
  | '.' :: c :: _ => c.isDigit
  | c :: _ => c.isDigit
  | [] => false

def scanFraction : List Char → Option (List Char) × List Char
  | '.' :: rest => (some (rest.takeWhile Char.isDigit), rest.dropWhile Char.isDigit)
  | text => (none, text)

/-- The longest numeral at the front of a text where one starts, and what follows it. -/
def scan (text : List Char) : Numeral × List Char :=
  let whole := text.takeWhile Char.isDigit
  let (fraction, afterFraction) := scanFraction (text.dropWhile Char.isDigit)
  let (exponent, rest) := Exponent.scan afterFraction
  ({ whole, fraction, exponent }, rest)

def decimal (numeral : Numeral) : Decimal.Scaled :=
  let fraction := numeral.fraction.getD []
  let shift := (numeral.exponent.map Exponent.value).getD 0
  { digits := Nat.ofDigitChars 10 (numeral.whole ++ fraction) 0
    exponent := shift - fraction.length }

/-- The integer that the numeral stands for when it has neither point nor exponent. -/
def integer? (numeral : Numeral) : Option Nat :=
  if numeral.fraction.isNone && numeral.exponent.isNone then
    some (Nat.ofDigitChars 10 numeral.whole 0)
  else none

def float? (negative : Bool) (numeral : Numeral) : Option Number :=
  let magnitude := Decimal.nearestFloat numeral.decimal
  if magnitude.isFinite then some (.float (if negative then -magnitude else magnitude)) else none

def number? (negative : Bool) (numeral : Numeral) : Option Number :=
  let exact := numeral.integer?.bind fun n =>
    Number.ofInt? (if negative then Int.negOfNat n else n)
  exact <|> numeral.float? negative

def scanSign : List Char → Bool × List Char
  | '-' :: rest => (true, rest)
  | '+' :: rest => (false, rest)
  | text => (false, text)

/-- The number that a text stands for on its own, blanks around it allowed. -/
def read (source : String) : Option Number :=
  let (negative, unsigned) := scanSign (trimChars source.toList)
  if startsAt unsigned then
    match scan unsigned with
    | (numeral, []) => numeral.number? negative
    | _ => none
  else none

end Numeral

theorem Exponent.scanSign_append (text : List Char) :
    (Exponent.scanSign text).1.toList ++ (Exponent.scanSign text).2 = text := by
  cases text with
  | nil => rfl
  | cons c rest =>
      simp only [Exponent.scanSign]
      split <;> rfl

theorem Exponent.scan_append (text : List Char) :
    ((Exponent.scan text).1.map Exponent.text).getD [] ++ (Exponent.scan text).2 = text := by
  cases text with
  | nil => rfl
  | cons mark rest =>
      simp only [Exponent.scan]
      split
      · simp only [Option.map_some, Option.getD_some, Exponent.text, List.cons_append,
          List.append_assoc, List.takeWhile_append_dropWhile, Exponent.scanSign_append]
      · rfl

theorem Numeral.scan_append (text : List Char) :
    (Numeral.scan text).1.text ++ (Numeral.scan text).2 = text := by
  have fractionPart (rest : List Char) :
      ((Numeral.scanFraction rest).1.map ('.' :: ·)).getD [] ++ (Numeral.scanFraction rest).2 =
        rest := by
    unfold Numeral.scanFraction
    split <;> simp [List.takeWhile_append_dropWhile]
  simp only [Numeral.scan, Numeral.text, List.append_assoc]
  rw [Exponent.scan_append, fractionPart, List.takeWhile_append_dropWhile]

theorem Numeral.length_scan_lt {text : List Char} (h : Numeral.startsAt text = true) :
    (Numeral.scan text).2.length < text.length := by
  have whole := congrArg List.length (Numeral.scan_append text)
  rw [List.length_append] at whole
  suffices 0 < (Numeral.scan text).1.text.length by omega
  simp only [Numeral.scan, Numeral.text, List.length_append]
  unfold Numeral.startsAt at h
  split at h
  · have pointFirst (rest : List Char) : ('.' :: rest).dropWhile Char.isDigit = '.' :: rest := rfl
    simp only [pointFirst, Numeral.scanFraction, Option.map_some, Option.getD_some,
      List.length_cons]
    omega
  · simp only [List.takeWhile_cons, h, if_true, List.length_cons]
    omega
  · cases h

end Spreadsheet

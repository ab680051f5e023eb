import Spreadsheet.Decimal.Shortest

/-!
Numbers. A number is an exact integer of 64 bits or a floating-point number. Integers are kept
as long as they are exact and fit; a floating-point number without fraction and with fewer than
sixteen digits is written like an integer. There are two NaN, one of either sign; they differ in
nothing but their place in the order of all numbers, where one is the first and the other the
last. The main statements are that `ofInt?` accepts exactly the integers that fit and keeps their
value, and that the negative NaN comes before everything else.
-/

set_option autoImplicit false

namespace Spreadsheet

inductive Number where
  | int (n : Int64)
  /-- A floating-point number; the NaN among them is the positive one. -/
  | float (x : Float)
  | negativeNaN
deriving DecidableEq

namespace Number

def ofInt? (n : Int) : Option Number :=
  if -9223372036854775808 ≤ n ∧ n < 9223372036854775808 then some (.int (Int64.ofInt n)) else none

/-- A count as an exact number. Counts from 2 ^ 63 on wrap around. -/
def ofCount (count : Nat) : Number :=
  .int (Int64.ofNat count)

/-- The floating-point number of a bit pattern. Of a NaN only the sign is kept. -/
def ofBits (bits : UInt64) : Number :=
  let x := Float.ofBits bits
  if x.isNaN && 9223372036854775808 ≤ bits.toNat then .negativeNaN else .float x

def toFloat : Number → Float
  | .int n => Float.ofInt n.toInt
  | .float x => x
  | .negativeNaN => Binary64.nan

def isZero : Number → Bool
  | .int n => n.toInt == 0
  | .float x => x == 0.0
  | .negativeNaN => false

/-- The number in writing: an integer by its digits, a floating-point number by the shortest
decimal that reads back, unless it is a short whole number. -/
def text : Number → String
  | .int n => Int.repr n.toInt
  | .float x =>
      match Binary64.shortWhole? x with
      | some n => Int.repr n
      | none => Decimal.floatText x
  | .negativeNaN => Decimal.floatText Binary64.nan

/-- A key that orders all numbers by their floating-point values, the negative NaN before all
others and the positive NaN behind them. -/
def orderKey : Number → Int
  | .int n => Binary64.orderKey (Float.ofInt n.toInt)
  | .float x => Binary64.orderKey x
  | .negativeNaN => -9223372036854775809

theorem ofInt?_eq_some_iff (n : Int) (number : Number) :
    ofInt? n = some number ↔ ∃ m : Int64, number = .int m ∧ m.toInt = n := by
  unfold ofInt?
  constructor
  · intro h
    split at h
    · rename_i fits
      cases h
      exact ⟨_, rfl, Int64.toInt_ofInt_of_le (by omega) (by omega)⟩
    · cases h
  · rintro ⟨m, rfl, rfl⟩
    have low := m.le_toInt
    have high := m.toInt_lt
    rw [if_pos ⟨by omega, by omega⟩, Int64.ofInt_toInt]

@[simp] theorem ofInt?_toInt (m : Int64) : ofInt? m.toInt = some (.int m) :=
  (ofInt?_eq_some_iff _ _).2 ⟨m, rfl, rfl⟩

theorem ofInt?_eq_none_iff (n : Int) :
    ofInt? n = none ↔ ¬ (-9223372036854775808 ≤ n ∧ n < 9223372036854775808) := by
  unfold ofInt?
  split <;> simp_all

theorem orderKey_negativeNaN_lt {n : Number} (h : n ≠ .negativeNaN) :
    orderKey .negativeNaN < orderKey n := by
  cases n with
  | int n =>
      have := Binary64.orderKey_ge (Float.ofInt n.toInt)
      simp only [orderKey]
      omega
  | float x =>
      have := Binary64.orderKey_ge x
      simp only [orderKey]
      omega
  | negativeNaN => exact absurd rfl h

end Number

end Spreadsheet

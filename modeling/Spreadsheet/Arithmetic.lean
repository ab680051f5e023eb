import Spreadsheet.FormulaError

/-!
Arithmetic. Two exact integers give an exact integer as long as the result is one and fits;
everything else is computed with floating-point numbers, and a result that is not finite is an
error. An operator on values first reads its operands as numbers, the left one before the right.
The main statements say when the result of an operation on integers is exact.
-/

set_option autoImplicit false

namespace Spreadsheet

namespace Number

def ofFloat (x : Float) : Outcome Number :=
  if x.isNaN then .error (.function .notReal)
  else if x.isInf then .error (.function .overflow)
  else .ok (.float x)

def wholeOrFloat (x : Float) : Outcome Number :=
  match (Binary64.shortWhole? x).bind ofInt? with
  | some n => .ok n
  | none => ofFloat x

/-- Apply an operation: exactly to two integers if the result fits, else to floating-point
numbers. -/
def combine (exact : Int → Int → Int) (approximate : Float → Float → Float)
    (left right : Number) : Outcome Number :=
  let whole? :=
    match left, right with
    | .int a, .int b => ofInt? (exact a.toInt b.toInt)
    | _, _ => none
  match whole? with
  | some n => .ok n
  | none => ofFloat (approximate left.toFloat right.toFloat)

def add : Number → Number → Outcome Number :=
  combine (· + ·) (· + ·)

def subtract : Number → Number → Outcome Number :=
  combine (· - ·) (· - ·)

def multiply : Number → Number → Outcome Number :=
  combine (· * ·) (· * ·)

def exactQuotient? : Number → Number → Option Number
  | .int a, .int b =>
      if a.toInt % b.toInt = 0 then ofInt? (a.toInt / b.toInt) else none
  | _, _ => none

/-- Division. By zero it is an error; of integers it is exact when nothing is left over. -/
def divide (left right : Number) : Outcome Number :=
  if right.isZero then .error (.function .divisionByZero)
  else
    match exactQuotient? left right with
    | some n => .ok n
    | none => ofFloat (left.toFloat / right.toFloat)

/-- The power of an integer when it fits in 64 bits. No power of a base beyond -1, 0 and 1
does from the exponent 64 on, and the powers of those three depend on the parity of a positive
exponent only. -/
def intPower? (base : Int) (exponent : Nat) : Option Number :=
  if base.natAbs ≤ 1 then ofInt? (Int.pow base (min exponent (2 - exponent % 2)))
  else if exponent < 64 then ofInt? (Int.pow base exponent)
  else none

def exactPower? : Number → Number → Option Number
  | .int base, .int exponent =>
      if 0 ≤ exponent.toInt ∧ exponent.toInt < 4294967296 then
        intPower? base.toInt exponent.toInt.toNat
      else none
  | _, _ => none

/-- Powers. A negative power of zero divides by zero. -/
def power (base exponent : Number) : Outcome Number :=
  match exactPower? base exponent with
  | some n => .ok n
  | none =>
      let b := base.toFloat
      let e := exponent.toFloat
      if b == 0.0 && e < 0.0 then .error (.function .divisionByZero)
      else ofFloat (Float.pow b e)

/-- The opposite number. The least integer has no integer opposite; the two NaN are opposites. -/
def negate : Number → Outcome Number
  | .int n =>
      match ofInt? (-n.toInt) with
      | some m => .ok m
      | none => ofFloat (-Float.ofInt n.toInt)
  | .float x => .ok (if x.isNaN then .negativeNaN else .float (-x))
  | .negativeNaN => .ok (.float Binary64.nan)

theorem combine_int (exact : Int → Int → Int) (approximate : Float → Float → Float)
    (a b c : Int64) (h : exact a.toInt b.toInt = c.toInt) :
    combine exact approximate (.int a) (.int b) = .ok (.int c) := by
  simp [combine, h]

theorem add_int {a b c : Int64} (h : a.toInt + b.toInt = c.toInt) :
    add (.int a) (.int b) = .ok (.int c) :=
  combine_int _ _ a b c h

theorem subtract_int {a b c : Int64} (h : a.toInt - b.toInt = c.toInt) :
    subtract (.int a) (.int b) = .ok (.int c) :=
  combine_int _ _ a b c h

theorem multiply_int {a b c : Int64} (h : a.toInt * b.toInt = c.toInt) :
    multiply (.int a) (.int b) = .ok (.int c) :=
  combine_int _ _ a b c h

theorem divide_int {a b c : Int64} (nonzero : b.toInt ≠ 0) (h : a.toInt = c.toInt * b.toInt) :
    divide (.int a) (.int b) = .ok (.int c) := by
  simp [divide, isZero, nonzero, exactQuotient?, h, Int.mul_ediv_cancel _ nonzero]

theorem negate_int {a b : Int64} (h : -a.toInt = b.toInt) : negate (.int a) = .ok (.int b) := by
  simp [negate, h]

private theorem unit_pow_reduced {base : Int} (unit : base.natAbs ≤ 1) (exponent : Nat) :
    Int.pow base (min exponent (2 - exponent % 2)) = Int.pow base exponent := by
  change base ^ min exponent (2 - exponent % 2) = base ^ exponent
  have squares : base * base * base = base := by
    have : base = -1 ∨ base = 0 ∨ base = 1 := by omega
    rcases this with rfl | rfl | rfl <;> rfl
  induction exponent using Nat.strongRecOn with
  | ind exponent ih =>
      by_cases small : exponent < 3
      · have : exponent = 0 ∨ exponent = 1 ∨ exponent = 2 := by omega
        rcases this with rfl | rfl | rfl <;> rfl
      · obtain ⟨rest, rfl⟩ : ∃ rest, exponent = rest + 3 := ⟨exponent - 3, by omega⟩
        have reduced := ih (rest + 1) (by omega)
        have shift : base ^ (rest + 3) = base ^ (rest + 1) := by
          rw [Int.pow_succ, Int.pow_succ, Int.pow_succ, Int.mul_assoc, Int.mul_assoc,
            ← Int.mul_assoc base, squares]
        rw [shift, ← reduced]
        congr 1
        omega

theorem intPower?_eq_some {base : Int} {exponent : Nat} {result : Int64}
    (h : Int.pow base exponent = result.toInt) :
    intPower? base exponent = some (.int result) := by
  unfold intPower?
  split
  · rename_i unit
    rw [unit_pow_reduced unit, h, ofInt?_toInt]
  · rename_i large
    split
    · rw [h, ofInt?_toInt]
    · rename_i many
      have low := result.le_toInt
      have high := result.toInt_lt
      have size : (base ^ exponent).natAbs = base.natAbs ^ exponent := Int.natAbs_pow ..
      have grows : 2 ^ 64 ≤ base.natAbs ^ exponent :=
        Nat.le_trans (Nat.pow_le_pow_right (by decide) (by omega))
          (Nat.pow_le_pow_left (by omega) _)
      have same : base ^ exponent = result.toInt := h
      rw [← size, same] at grows
      omega

end Number

namespace Value

def toNumber : Value → Outcome Number
  | .number n => .ok n
  | .text s =>
      if Text.isBlankText s then .ok (.int 0)
      else
        match Numeral.read s with
        | some n => .ok n
        | none => .error (.function (.nonNumeric s))

def toFloat (value : Value) : Outcome Float :=
  value.toNumber.map Number.toFloat

def isTrue (value : Value) : Outcome Bool :=
  value.toFloat.map fun x => !(x == 0.0)

def withNumbers (operation : Number → Number → Outcome Number) (left right : Value) :
    Outcome Value := do
  let l ← left.toNumber
  let r ← right.toNumber
  let result ← operation l r
  return .number result

def applyBinary (operator : BinaryOperator) (left right : Value) : Outcome Value :=
  match operator with
  | .add => withNumbers Number.add left right
  | .subtract => withNumbers Number.subtract left right
  | .multiply => withNumbers Number.multiply left right
  | .divide => withNumbers Number.divide left right
  | .power => withNumbers Number.power left right
  | .concat => .ok (left.concat right)

def applySign (operator : SignOperator) (operand : Value) : Outcome Value := do
  let n ← operand.toNumber
  match operator with
  | .negate => return .number (← n.negate)
  | .plus => return .number n

end Value

end Spreadsheet

import Spreadsheet.Proofs.Binary64.Integer
import Spreadsheet.Proofs.Expression

/-!
Functions and operators applied to numbers. A function is called by its name, its arguments are
counted and read as numbers, and its rule is left to compute. The main statements remove what stands
before the computing, so that a fact about numbers becomes one about values, and say that
floating-point arithmetic never gives an integer.
-/

set_option autoImplicit false

namespace Spreadsheet

theorem Outcome.bind_number (outcome : Outcome Number) :
    (outcome >>= fun n => pure (Value.number n)) = outcome.map Value.number := by
  cases outcome <;> rfl

theorem Outcome.map_number_eq_int_iff {outcome : Outcome Number} {n : Int64} :
    outcome.map Value.number = .ok (.int n) ↔ outcome = .ok (.int n) := by
  constructor
  · intro found
    cases outcome with
    | error error => cases found
    | ok number =>
        cases found
        rfl
  · rintro rfl
    rfl

theorem callFunction_of_get? {name : String} {function : Function} {arguments : List Value}
    (found : Registry.standard.get? name = some function)
    (counted : function.checkCount arguments.length = .ok ()) (context : Context) :
    callFunction context name arguments = function.rule context arguments := by
  unfold callFunction
  split
  · rename_i registered other
    cases other.symm.trans found
    rw [Function.call, counted]
    rfl
  · rename_i missing
    cases missing.symm.trans found

namespace Value

theorem withNumbers_of_toNumber {left right : Value} {l r : Number}
    (readLeft : left.toNumber = .ok l) (readRight : right.toNumber = .ok r)
    (operation : Number → Number → Outcome Number) :
    withNumbers operation left right = (operation l r).map Value.number := by
  rw [withNumbers, readLeft, Outcome.ok_bind, readRight, Outcome.ok_bind, Outcome.bind_number]

end Value

namespace Function

theorem digitCount_int {arguments : List Value} {position : Nat} {d : Int64}
    (given : arguments[position]? = some (.int d)) (limited : d.toInt.natAbs ≤ 308) :
    digitCount arguments position = .ok d.toInt := by
  have bounded := Binary64.log2_toInt_lt d
  have magnitude : (d.toInt.natAbs : Int).natAbs.log2 < 1023 := bounded
  have exact : Binary64.nearest d.toInt = d.toInt := Binary64.nearest_eq_self (by omega)
  have limit : (308.0 : Float) = Float.ofInt 308 := rfl
  have notBeyond : ¬ (308.0 : Float) < (Float.ofInt d.toInt).abs := by
    rw [Binary64.abs_ofInt bounded, limit, Binary64.ofInt_lt_iff (by decide) magnitude,
      Binary64.nearest_eq_self (by decide), Binary64.nearest_eq_self (by omega)]
    omega
  have converted : (Value.int d).toFloat = .ok (Float.ofInt d.toInt) := rfl
  unfold digitCount
  rw [given]
  dsimp only
  rw [converted, Outcome.ok_bind, Binary64.round_ofInt .towardZero bounded, if_neg notBeyond,
    Binary64.toInt_ofInt bounded, exact]
  rfl

theorem numbers_int (ns : List Int64) : numbers (ns.map .int) = .ok (ns.map .int) := by
  induction ns with
  | nil => rfl
  | cons n rest ih =>
      rw [numbers] at ih
      rw [List.map_cons, numbers, List.mapM_cons, ih]
      rfl

theorem ofNumbers_int (compute : List Number → Outcome Number) (context : Context)
    (ns : List Int64) :
    ofNumbers compute context (ns.map .int) = (compute (ns.map .int)).map Value.number := by
  rw [ofNumbers, numbers_int, Outcome.ok_bind, Outcome.bind_number]

end Function

namespace Number

theorem ofInt?_eq_int_iff {n : Int} {m : Int64} : ofInt? n = some (.int m) ↔ n = m.toInt := by
  rw [ofInt?_eq_some_iff]
  constructor
  · rintro ⟨_, same, rfl⟩
    cases same
    rfl
  · rintro rfl
    exact ⟨m, rfl, rfl⟩

theorem ofCount_eq_int {count : Nat} {n : Int64} (same : n.toInt = count) :
    ofCount count = .int n := by
  have high := n.toInt_lt
  have fits : count < 2 ^ 63 := by omega
  rw [ofCount, Int64.toInt_inj.1 ((Int64.toInt_ofNat_of_lt fits).trans same.symm)]

theorem ofFloat_ne_int (x : Float) (n : Int64) : ofFloat x ≠ .ok (.int n) := by
  unfold ofFloat
  split
  · exact nofun
  · split <;> exact nofun

end Number

end Spreadsheet

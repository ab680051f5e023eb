import Spreadsheet.Function.Arithmetic

/-!
Averages, medians, modes, ranges and counts. The median sorts by floating-point value, a NaN by
its sign before or behind all numbers, and keeps equal numbers in their order; the mode counts
numbers that are equal as floating-point numbers and prefers the one seen first. The main
statements are that sorting keeps every number and puts them in ascending order.
-/

set_option autoImplicit false

namespace Spreadsheet

namespace Number

def average (numbers : List Number) : Outcome Number := do
  let total ← sum numbers
  total.divide (.ofCount numbers.length)

def sorted (numbers : List Number) : List Number :=
  numbers.mergeSort fun a b => a.orderKey ≤ b.orderKey

def median (numbers : List Number) : Outcome Number :=
  let inOrder := sorted numbers
  let middle := numbers.length / 2
  match inOrder[middle - 1]?, inOrder[middle]? with
  | some before, some after =>
      if numbers.length % 2 = 1 then .ok after
      else do
        let total ← before.add after
        total.divide (.int 2)
  | _, _ => .error (.function .noValues)

/-- Count one more occurrence. Numbers are told apart as floating-point numbers. -/
def countOnce (n : Number) : List (Number × Nat) → List (Number × Nat)
  | [] => [(n, 1)]
  | (seen, count) :: rest =>
      if seen.toFloat == n.toFloat then (seen, count + 1) :: rest
      else (seen, count) :: countOnce n rest

def occurrences (numbers : List Number) : List (Number × Nat) :=
  numbers.foldl (fun counted n => countOnce n counted) []

def mostFrequent : List (Number × Nat) → Option (Number × Nat)
  | [] => none
  | first :: rest =>
      some (rest.foldl (fun best entry => if best.2 < entry.2 then entry else best) first)

def mode (numbers : List Number) : Number :=
  match mostFrequent (occurrences numbers) with
  | some (n, _) => n
  | none => .int 0

def spread (numbers : List Number) : Outcome Number := do
  let high ← maximum numbers
  let low ← minimum numbers
  high.subtract low

theorem sorted_perm (numbers : List Number) : (sorted numbers).Perm numbers :=
  List.mergeSort_perm _ _

theorem pairwise_sorted (numbers : List Number) :
    (sorted numbers).Pairwise fun a b => a.orderKey ≤ b.orderKey := by
  refine (List.pairwise_mergeSort ?_ ?_ numbers).imp fun comesFirst => of_decide_eq_true comesFirst
  · intro a b c
    simp only [decide_eq_true_eq]
    exact Int.le_trans
  · intro a b
    simp only [Bool.or_eq_true, decide_eq_true_eq]
    exact Int.le_total _ _

end Number

namespace Function

def average : Rule := ofNumbers Number.average

def median : Rule := ofNumbers Number.median

def mode : Rule := ofNumbers fun numbers => .ok (Number.mode numbers)

def spread : Rule := ofNumbers Number.spread

def isNumeric (value : Value) : Bool :=
  !value.isBlank && value.toNumber.toBool

def countNumbers : Rule := fun _ arguments =>
  .ok (.number (.ofCount (arguments.countP isNumeric)))

def countFilled : Rule := fun _ arguments =>
  .ok (.number (.ofCount (arguments.countP fun value => !value.isBlank)))

end Function

end Spreadsheet

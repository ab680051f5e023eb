import Spreadsheet.Proofs.Statistics

/-!
The greatest, the least and the middle one of a list of integers, and the distance between its
ends. Each depends only on how the elements compare, so where floating-point numbers tell them apart
the order of their floating-point numbers may be replaced by their own.
-/

set_option autoImplicit false

namespace Spreadsheet

theorem mergeSort_congr {α : Type} {f g : α → Int} {l : List α}
    (same : ∀ a ∈ l, ∀ b ∈ l, (f a ≤ f b ↔ g a ≤ g b)) :
    l.mergeSort (fun a b => f a ≤ f b) = l.mergeSort fun a b => g a ≤ g b := by
  have mapped : (l.mergeSort fun a b => f a ≤ f b).map id =
      (l.map id).mergeSort fun a b => g a ≤ g b :=
    List.map_mergeSort fun a inA b inB => decide_eq_decide.2 (same a inA b inB)
  rw [List.map_id, List.map_id] at mapped
  exact mapped

theorem mergeSort_eq_of_perm {ns inOrder : List Int64} (perm : inOrder.Perm ns)
    (ascending : inOrder.Pairwise fun a b => a.toInt ≤ b.toInt) :
    ns.mergeSort (fun a b => a.toInt ≤ b.toInt) = inOrder := by
  have sorted : (ns.mergeSort fun a b => a.toInt ≤ b.toInt).Pairwise fun a b =>
      a.toInt ≤ b.toInt := by
    refine (List.pairwise_mergeSort ?_ ?_ ns).imp fun comesFirst => of_decide_eq_true comesFirst
    · simp only [decide_eq_true_eq]
      exact fun _ _ _ => Int.le_trans
    · simp only [Bool.or_eq_true, decide_eq_true_eq]
      exact fun _ _ => Int.le_total _ _
  refine List.Perm.eq_of_pairwise (fun a b _ _ before after => ?_) sorted ascending
    ((List.mergeSort_perm _ _).trans perm.symm)
  exact Int64.toInt_inj.1 (Int.le_antisymm before after)

/-- What is found in a list of integers when their order is that of their ranks. The difference
between the ends is found only if it is an integer of 64 bits. -/
structure OrderStatistics (rank : Int64 → Int) (context : Context) (ns : List Int64) : Prop where
  ends : ∃ high low, FirstGreatest rank ns high ∧ FirstGreatest (fun n => -rank n) ns low ∧
    callFunction context "MAX" (ns.map .int) = .ok (.int high) ∧
      callFunction context "MIN" (ns.map .int) = .ok (.int low) ∧
      ∀ difference : Int64, high.toInt - low.toInt = difference.toInt →
        callFunction context "RANGE" (ns.map .int) = .ok (.int difference)
  middle : ns.length % 2 = 1 →
    ∃ middle, (ns.mergeSort fun a b => rank a ≤ rank b)[ns.length / 2]? = some middle ∧
      callFunction context "MEDIAN" (ns.map .int) = .ok (.int middle)

open Number

variable {ns : List Int64} {rank other : Int64 → Int} {context : Context}

theorem OrderStatistics.congr (found : OrderStatistics rank context ns)
    (same : ∀ a ∈ ns, ∀ b ∈ ns, (rank a ≤ rank b ↔ other a ≤ other b)) :
    OrderStatistics other context ns where
  ends := by
    obtain ⟨high, low, isHigh, isLow, results⟩ := found.ends
    refine ⟨high, low, isHigh.congr same, isLow.congr fun a inA b inB => ?_, results⟩
    have := same b inB a inA
    omega
  middle := mergeSort_congr same ▸ found.middle

theorem orderStatistics_image (nonempty : ns ≠ []) (context : Context) :
    OrderStatistics image context ns where
  ends := by
    obtain ⟨high, isHigh, highest⟩ := extreme_int (fun candidate best => best < candidate)
      (fun a b => decide_eq_true_iff.trans toFloat_int_lt_iff) nonempty
    obtain ⟨low, isLow, lowest⟩ := extreme_int (r := fun a b => -image b < -image a)
      (fun candidate best => candidate < best)
      (fun a b => (decide_eq_true_iff.trans toFloat_int_lt_iff).trans (by omega)) nonempty
    refine ⟨high, low, mem_argmax_iff_firstGreatest.1 isHigh, mem_argmax_iff_firstGreatest.1 isLow,
      ?_, ?_, ?_⟩
    · rw [Function.callFunction_int maximum rfl nonempty, maximum, highest]
      rfl
    · rw [Function.callFunction_int minimum rfl nonempty, minimum, lowest]
      rfl
    · intro difference fits
      rw [Function.callFunction_int spread rfl nonempty, spread, maximum, minimum,
        highest, lowest, Outcome.ok_bind, Outcome.ok_bind, subtract_int fits]
      rfl
  middle := by
    intro odd
    obtain ⟨middle, inMiddle, found⟩ := median_int odd
    refine ⟨middle, inMiddle, ?_⟩
    rw [Function.callFunction_int median rfl nonempty, found]
    rfl

/-- Among integers the greatest, the least, the distance between these and the middle one are found
in the order of the nearest floating-point numbers. If no two elements share one, they are found in
the order of the integers. -/
theorem orderStatistics_int {ns : List Int64} (nonempty : ns ≠ []) (context : Context) :
    OrderStatistics image context ns ∧ (ToldApart ns → OrderStatistics Int64.toInt context ns) := by
  have found := orderStatistics_image nonempty context
  exact ⟨found, fun apart => found.congr fun a inA b inB => apart.image_le_iff inA inB⟩

/-- Three integers that floating-point numbers tell apart, although one of them is none. -/
theorem orderStatistics_int_neighbours :
    [9007199254740994, -5, 9007199254740993] ≠ ([] : List Int64) ∧
      ToldApart [9007199254740994, -5, 9007199254740993] ∧
      callFunction Context.bare "MAX" [.int 9007199254740994, .int (-5), .int 9007199254740993] =
        .ok (.int 9007199254740994) ∧
      callFunction Context.bare "MIN" [.int 9007199254740994, .int (-5), .int 9007199254740993] =
        .ok (.int (-5)) ∧
      callFunction Context.bare "RANGE" [.int 9007199254740994, .int (-5), .int 9007199254740993] =
        .ok (.int 9007199254740999) ∧
      callFunction Context.bare "MEDIAN"
          [.int 9007199254740994, .int (-5), .int 9007199254740993] =
        .ok (.int 9007199254740993) := by
  have nonempty : [9007199254740994, -5, 9007199254740993] ≠ ([] : List Int64) := nofun
  have apart : ToldApart [9007199254740994, -5, 9007199254740993] := by decide +kernel
  have found := (orderStatistics_int nonempty Context.bare).2 apart
  obtain ⟨high, low, isHigh, isLow, greatest, least, distance⟩ := found.ends
  obtain ⟨middle, inMiddle, median⟩ := found.middle rfl
  cases isHigh.unique (show FirstGreatest _ _ 9007199254740994 by decide +kernel)
  cases isLow.unique (show FirstGreatest _ _ (-5) by decide +kernel)
  have perm : [-5, 9007199254740993, 9007199254740994].Perm
      [9007199254740994, -5, (9007199254740993 : Int64)] := by decide
  rw [mergeSort_eq_of_perm perm (by decide)] at inMiddle
  cases inMiddle
  exact ⟨nonempty, apart, greatest, least, distance 9007199254740999 (by decide), median⟩

/-- Of two integers with the same floating-point number the greatest is the first one, although the
other is greater. -/
theorem maximum_of_neighbours :
    FirstGreatest Int64.toInt [9007199254740992, 9007199254740993] 9007199254740993 ∧
      callFunction Context.bare "MAX" [.int 9007199254740992, .int 9007199254740993] =
        .ok (.int 9007199254740992) := by
  refine ⟨by decide, ?_⟩
  have nonempty : [9007199254740992, 9007199254740993] ≠ ([] : List Int64) := nofun
  obtain ⟨high, -, isHigh, -, greatest, -⟩ := (orderStatistics_image nonempty Context.bare).ends
  cases isHigh.unique (show FirstGreatest _ _ 9007199254740992 by decide +kernel)
  exact greatest

end Spreadsheet

import Spreadsheet.Proofs.Statistics

/-!
The most frequent one of a list of integers. Integers with the same floating-point number are
counted together, under the first of them. The list of counts is taken apart from the front: the
first integer collects everything that counts as the same, and the counts of the others are those of
the list without these.
-/

set_option autoImplicit false

namespace Spreadsheet

theorem argmax_cons_filter {α : Type} {f : α → Nat} {first : α} {p : α → Bool} {rest : List α}
    (low : ∀ a ∈ rest, p a = false → f a ≤ f first) :
    (first :: rest.filter p).argmax f = (first :: rest).argmax f := by
  induction rest using List.reverseRecOn with
  | nil => rfl
  | append_singleton rest last ih =>
      have kept := ih fun a inRest => low a (List.mem_append_left _ inRest)
      rw [List.filter_append, ← List.cons_append, ← List.cons_append]
      cases passes : p last with
      | true =>
          rw [List.filter_cons_of_pos passes, List.filter_nil, List.argmax_concat,
            List.argmax_concat, kept]
      | false =>
          have lastLow := low last (List.mem_append_right _ List.mem_cons_self) passes
          rw [List.filter_cons_of_neg (by simp [passes]), List.filter_nil, List.append_nil, kept,
            List.argmax_concat]
          cases found : (first :: rest).argmax f with
          | none => exact absurd (List.argmax_eq_none.1 found) (List.cons_ne_nil _ _)
          | some best =>
              have := List.le_of_mem_argmax (List.mem_cons_self (a := first) (l := rest)) found
              exact (if_neg (by omega)).symm

namespace Number

def alike (a b : Number) : Bool :=
  a.toFloat == b.toFloat

theorem alike_int (a b : Int64) : alike (.int a) (.int b) = decide (image a = image b) := by
  rw [Bool.eq_iff_iff, decide_eq_true_iff]
  exact toFloat_int_beq_iff

theorem countOnce_cons (n seen : Number) (count : Nat) (counted : List (Number × Nat)) :
    countOnce n ((seen, count) :: counted) =
      if alike seen n then (seen, count + 1) :: counted
      else (seen, count) :: countOnce n counted :=
  rfl

/-- The first number of a list of counts collects what counts as the same. -/
theorem foldl_countOnce (seen : Number) (count : Nat) (counted : List (Number × Nat))
    (numbers : List Number) :
    numbers.foldl (fun counted n => countOnce n counted) ((seen, count) :: counted) =
      (seen, count + numbers.countP (alike seen)) ::
        (numbers.filter fun n => !alike seen n).foldl (fun counted n => countOnce n counted)
          counted := by
  induction numbers generalizing count counted with
  | nil => rfl
  | cons n rest ih =>
      rw [List.foldl_cons, countOnce_cons]
      by_cases same : alike seen n = true
      · rw [if_pos same, ih, List.countP_cons_of_pos same,
          List.filter_cons_of_neg (by simp [same]), Nat.add_right_comm, Nat.add_assoc]
      · rw [if_neg same, ih, List.countP_cons_of_neg same,
          List.filter_cons_of_pos (by simp [same]), List.foldl_cons]

theorem occurrences_cons (n : Number) (rest : List Number) :
    occurrences (n :: rest) =
      (n, 1 + rest.countP (alike n)) :: occurrences (rest.filter fun other => !alike n other) :=
  foldl_countOnce n 1 [] rest

theorem mostFrequent_eq (counted : List (Number × Nat)) :
    mostFrequent counted = counted.argmax Prod.snd := by
  cases counted with
  | nil => rfl
  | cons first rest =>
      refine (List.foldl_hom some fun best entry => ?_).symm
      exact (apply_ite some _ _ _).symm

def multiplicity (ns : List Int64) (n : Int64) : Nat :=
  ns.countP fun other => image n = image other

def others (n : Int64) (ns : List Int64) : List Int64 :=
  ns.filter fun other => !decide (image n = image other)

variable {a n : Int64} {ns : List Int64}

theorem mem_others_iff : a ∈ others n ns ↔ a ∈ ns ∧ image n ≠ image a := by
  simp [others]

theorem multiplicity_others (apart : image n ≠ image a) :
    multiplicity (others n ns) a = multiplicity (n :: ns) a := by
  rw [multiplicity, multiplicity, others, List.countP_filter,
    List.countP_cons_of_neg (by simp [apart.symm])]
  refine List.countP_congr fun other _ => ?_
  simp only [Bool.and_eq_true, decide_eq_true_iff, Bool.not_eq_true', decide_eq_false_iff_not,
    and_iff_left_iff_imp]
  exact fun same => same ▸ apart

theorem occurrences_int (n : Int64) (ns : List Int64) :
    occurrences ((n :: ns).map .int) =
      (.int n, multiplicity (n :: ns) n) :: occurrences ((others n ns).map .int) := by
  have counted : 1 + (ns.map Number.int).countP (alike (.int n)) = multiplicity (n :: ns) n := by
    rw [multiplicity, List.countP_cons_of_pos (by simp), List.countP_map, Nat.add_comm]
    congr 2
    exact funext fun other => alike_int n other
  have kept : (ns.map Number.int).filter (fun other => !alike (.int n) other) =
      (others n ns).map .int := by
    rw [List.filter_map, others]
    congr 2
    exact funext fun other => congrArg Bool.not (alike_int n other)
  rw [List.map_cons, occurrences_cons, counted, kept]

/-- The first entry with the greatest count is that of the integer with the greatest
multiplicity. -/
theorem argmax_occurrences {f : Int64 → Nat} :
    ∀ {ns : List Int64}, (∀ n ∈ ns, multiplicity ns n = f n) →
      (occurrences (ns.map .int)).argmax Prod.snd = (ns.argmax f).map fun n => (.int n, f n)
  | [], _ => rfl
  | n :: ns, counted => by
      have found : (occurrences ((others n ns).map .int)).argmax Prod.snd =
          ((others n ns).argmax f).map fun n => (.int n, f n) := by
        refine argmax_occurrences fun a inOthers => ?_
        obtain ⟨inRest, apart⟩ := mem_others_iff.1 inOthers
        rw [multiplicity_others apart]
        exact counted a (List.mem_cons_of_mem n inRest)
      have low : ∀ a ∈ ns, (!decide (image n = image a)) = false → f a ≤ f n := by
        intro a inRest same
        have same : image n = image a := by simpa using same
        rw [← counted a (List.mem_cons_of_mem n inRest), ← counted n List.mem_cons_self,
          multiplicity, multiplicity, same]
      rw [← argmax_cons_filter low, occurrences_int, counted n List.mem_cons_self,
        List.argmax_cons, List.argmax_cons, found]
      change _ = Option.map _ (Option.casesOn ((others n ns).argmax f) _ _)
      cases (others n ns).argmax f with
      | none => rfl
      | some best =>
          change (if f n < f best then some (Number.int best, f best) else some (.int n, f n)) =
            Option.map _ (if f n < f best then some best else some n)
          split <;> rfl
termination_by ns => ns.length
decreasing_by exact Nat.lt_succ_of_le (List.length_filter_le _ _)

theorem ToldApart.multiplicity_eq (apart : ToldApart ns) (inside : n ∈ ns) :
    multiplicity ns n = ns.count n := by
  refine List.countP_congr fun other inOther => ?_
  rw [decide_eq_true_iff, beq_iff_eq]
  exact ⟨fun same => (apart n inside other inOther same).symm, fun same => congrArg image same.symm⟩

theorem mode_int (nonempty : ns ≠ []) (context : Context) :
    ∃ v, FirstGreatest (multiplicity ns) ns v ∧
      callFunction context "MODE" (ns.map .int) = .ok (.int v) := by
  obtain ⟨v, frequent⟩ := Option.ne_none_iff_exists'.1
    (mt (List.argmax_eq_none (f := multiplicity ns)).1 nonempty)
  refine ⟨v, mem_argmax_iff_firstGreatest.1 frequent, ?_⟩
  rw [Function.callFunction_int (fun numbers => .ok (mode numbers)) rfl nonempty, mode,
    mostFrequent_eq, argmax_occurrences fun _ _ => rfl, frequent]
  rfl

end Number

open Number

/-- Of integers the mode is the first of those that have the floating-point number of most elements.
If no two different elements share one, it is the first of those that occur most often. -/
theorem mode_of_integers {ns : List Int64} (nonempty : ns ≠ []) (context : Context) :
    ∃ v, callFunction context "MODE" (ns.map .int) = .ok (.int v) ∧
      FirstGreatest (multiplicity ns) ns v ∧
      (ToldApart ns → FirstGreatest (fun n => ns.count n) ns v) := by
  obtain ⟨v, frequent, found⟩ := mode_int nonempty context
  refine ⟨v, found, frequent, fun apart => frequent.congr fun a inA b inB => ?_⟩
  rw [apart.multiplicity_eq inA, apart.multiplicity_eq inB]

/-- Two integers occur twice each, among them one that is no floating-point number; the result is
the one that comes first. -/
theorem mode_of_integers_tie :
    [7, 9007199254740993, -1, -1, 9007199254740993] ≠ ([] : List Int64) ∧
      ToldApart [7, 9007199254740993, -1, -1, 9007199254740993] ∧
      callFunction Context.bare "MODE"
          [.int 7, .int 9007199254740993, .int (-1), .int (-1), .int 9007199254740993] =
        .ok (.int 9007199254740993) := by
  have nonempty : [7, 9007199254740993, -1, -1, 9007199254740993] ≠ ([] : List Int64) := nofun
  have apart : ToldApart [7, 9007199254740993, -1, -1, 9007199254740993] := by decide +kernel
  obtain ⟨v, found, -, frequent⟩ := mode_of_integers nonempty Context.bare
  cases (frequent apart).unique (show FirstGreatest _ _ 9007199254740993 by decide +kernel)
  exact ⟨nonempty, apart, found⟩

/-- An integer that occurs twice counts as the one in front of it, which occurs once and is the
result. -/
theorem mode_of_neighbours :
    FirstGreatest (fun n : Int64 => [9007199254740993, 9007199254740992, 9007199254740992].count n)
        [9007199254740993, 9007199254740992, 9007199254740992] 9007199254740992 ∧
      callFunction Context.bare "MODE"
          [.int 9007199254740993, .int 9007199254740992, .int 9007199254740992] =
        .ok (.int 9007199254740993) := by
  refine ⟨by decide +kernel, ?_⟩
  have nonempty : [9007199254740993, 9007199254740992, 9007199254740992] ≠ ([] : List Int64) :=
    nofun
  obtain ⟨v, frequent, found⟩ := mode_int nonempty Context.bare
  cases frequent.unique (show FirstGreatest _ _ 9007199254740993 by decide +kernel)
  exact found

end Spreadsheet

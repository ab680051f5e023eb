import Mathlib.Data.List.MinMax
import Spreadsheet.Proofs.Arithmetic
import Spreadsheet.Proofs.Binary64.OfInt

/-!
Extremes and medians of integers. They are found by comparing floating-point numbers, and two
integers of more than 53 binary digits may have the same one; such integers count as equal, and of
equal ones the first is taken.

The main statement is that the greatest, the least and the middle element are found in the order of
the nearest floating-point numbers. Where these tell all elements apart, it is the order of the
integers.
-/

set_option autoImplicit false

namespace Spreadsheet

section FirstGreatest

variable {α β γ : Type} [DecidableEq α] {l : List α} {m n : α}

/-- The element is the first of those with the greatest rank. -/
structure FirstGreatest [LE β] (rank : α → β) (l : List α) (m : α) : Prop where
  mem : m ∈ l
  le : ∀ a ∈ l, rank a ≤ rank m
  first : ∀ a ∈ l, rank m ≤ rank a → l.idxOf m ≤ l.idxOf a

instance [LE β] [DecidableLE β] (rank : α → β) (l : List α) (m : α) :
    Decidable (FirstGreatest rank l m) :=
  decidable_of_iff
    (m ∈ l ∧ (∀ a ∈ l, rank a ≤ rank m) ∧ ∀ a ∈ l, rank m ≤ rank a → l.idxOf m ≤ l.idxOf a)
    ⟨fun found => ⟨found.1, found.2.1, found.2.2⟩, fun found => ⟨found.mem, found.le, found.first⟩⟩

theorem mem_argmax_iff_firstGreatest [LinearOrder β] {rank : α → β} :
    m ∈ l.argmax rank ↔ FirstGreatest rank l m := by
  rw [List.mem_argmax_iff]
  exact ⟨fun found => ⟨found.1, found.2.1, found.2.2⟩,
    fun found => ⟨found.mem, found.le, found.first⟩⟩

theorem FirstGreatest.unique [LE β] {rank : α → β} (found : FirstGreatest rank l m)
    (other : FirstGreatest rank l n) : m = n := by
  have before := found.first n other.mem (other.le m found.mem)
  have after := other.first m found.mem (found.le n other.mem)
  exact (List.idxOf_inj found.mem).1 (Nat.le_antisymm before after)

theorem FirstGreatest.congr [LE β] [LE γ] {f : α → β} {g : α → γ} (found : FirstGreatest f l m)
    (same : ∀ a ∈ l, ∀ b ∈ l, (f a ≤ f b ↔ g a ≤ g b)) : FirstGreatest g l m where
  mem := found.mem
  le := fun a inA => (same a inA m found.mem).1 (found.le a inA)
  first := fun a inA higher => found.first a inA ((same m found.mem a inA).2 higher)

end FirstGreatest

namespace Number

/-- An integer as floating-point arithmetic sees it. -/
def image (n : Int64) : Int :=
  Binary64.nearest n.toInt

variable {a b : Int64} {ns : List Int64}

theorem toFloat_int_lt_iff :
    (Number.int a).toFloat < (Number.int b).toFloat ↔ image a < image b :=
  Binary64.ofInt_lt_iff (Binary64.log2_toInt_lt a) (Binary64.log2_toInt_lt b)

theorem toFloat_int_beq_iff :
    ((Number.int a).toFloat == (Number.int b).toFloat) = true ↔ image a = image b :=
  Binary64.ofInt_beq_iff (Binary64.log2_toInt_lt a) (Binary64.log2_toInt_lt b)

theorem orderKey_int_le_iff : (Number.int a).orderKey ≤ (Number.int b).orderKey ↔
    image a ≤ image b := by
  have below : (Number.int b).orderKey < (Number.int a).orderKey ↔ image b < image a :=
    Binary64.orderKey_ofInt_lt_iff (Binary64.log2_toInt_lt b) (Binary64.log2_toInt_lt a)
  omega

/-- No two different integers of the list have the same floating-point number. -/
def ToldApart (ns : List Int64) : Prop :=
  ∀ a ∈ ns, ∀ b ∈ ns, image a = image b → a = b

instance (ns : List Int64) : Decidable (ToldApart ns) :=
  @List.decidableBAll _ _ (fun _ => List.decidableBAll _ ns) ns

/-- Floating-point numbers tell integers of at most 53 binary digits apart. -/
theorem toldApart_of_le (small : ∀ n ∈ ns, n.toInt.natAbs ≤ 2 ^ 53) : ToldApart ns := by
  intro a inA b inB same
  rw [image, image, Binary64.nearest_eq_self (small a inA),
    Binary64.nearest_eq_self (small b inB)] at same
  exact Int64.toInt_inj.1 same

theorem ToldApart.image_le_iff (apart : ToldApart ns) (inA : a ∈ ns) (inB : b ∈ ns) :
    image a ≤ image b ↔ a.toInt ≤ b.toInt := by
  constructor
  · intro lessOrEqual
    rcases Int.le_total a.toInt b.toInt with ordered | reversed
    · exact ordered
    · have same := apart a inA b inB (Int.le_antisymm lessOrEqual (Binary64.nearest_mono reversed))
      rw [same]
  · exact Binary64.nearest_mono

theorem extreme_int (replaces : Float → Float → Bool) {r : Int64 → Int64 → Prop} [DecidableRel r]
    (agree : ∀ a b, replaces (Number.int a).toFloat (Number.int b).toFloat = true ↔ r a b)
    (nonempty : ns ≠ []) :
    ∃ best ∈ ns.foldl (List.argAux r) none, extreme replaces (ns.map .int) = .ok (.int best) := by
  obtain ⟨first, rest, rfl⟩ := List.exists_cons_of_ne_nil nonempty
  refine ⟨rest.foldl (fun best n => if r n best then n else best) first, ?_, ?_⟩
  · refine List.foldl_hom some fun best n => ?_
    exact (apply_ite some _ _ _).symm
  · rw [List.map_cons, extreme, List.foldl_map]
    congr 1
    refine List.foldl_hom Number.int fun best n => ?_
    simp only [agree, apply_ite Number.int]

theorem sorted_int (ns : List Int64) :
    sorted (ns.map .int) = (ns.mergeSort fun a b => image a ≤ image b).map .int := by
  refine (List.map_mergeSort fun a _ b _ => ?_).symm
  exact decide_eq_decide.2 orderKey_int_le_iff.symm

theorem median_int (odd : ns.length % 2 = 1) :
    ∃ middle, (ns.mergeSort fun a b => image a ≤ image b)[ns.length / 2]? = some middle ∧
      median (ns.map .int) = .ok (.int middle) := by
  have length : (ns.mergeSort fun a b => image a ≤ image b).length = ns.length :=
    List.length_mergeSort ns
  rw [median, sorted_int, List.length_map]
  generalize (ns.mergeSort fun a b => image a ≤ image b) = inOrder at length ⊢
  have inside : ns.length / 2 < inOrder.length := by omega
  have insideBefore : ns.length / 2 - 1 < inOrder.length := by omega
  refine ⟨inOrder[ns.length / 2], List.getElem?_eq_getElem inside, ?_⟩
  rw [List.getElem?_map, List.getElem?_map, List.getElem?_eq_getElem inside,
    List.getElem?_eq_getElem insideBefore]
  exact if_pos odd

end Number

namespace Function

theorem callFunction_int {name : String} (compute : List Number → Outcome Number)
    (found : Registry.standard.get? name = some ⟨name, 1, none, ofNumbers compute⟩)
    {ns : List Int64} (nonempty : ns ≠ []) (context : Context) :
    callFunction context name (ns.map .int) = (compute (ns.map .int)).map Value.number := by
  have counted : checkCount ⟨name, 1, none, ofNumbers compute⟩
      (ns.map Value.int).length = .ok () := by
    rw [checkCount_eq_ok_iff, List.length_map]
    exact ⟨List.length_pos_iff.2 nonempty, nofun⟩
  rw [callFunction_of_get? found counted]
  exact ofNumbers_int compute context ns

end Function

end Spreadsheet

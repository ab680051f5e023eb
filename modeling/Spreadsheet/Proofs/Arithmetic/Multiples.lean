import Spreadsheet.Proofs.Binary64.Rounded

/-!
Integers rounded to multiples of a unit. Each way of rounding chooses one of the multiples around an
integer. The main statement is that the multiple which the whole quotient leads to is the only one
that the choice allows.
-/

set_option autoImplicit false

namespace Spreadsheet

def withSignOf (n : Int) (magnitude : Nat) : Int :=
  if n < 0 then -magnitude else magnitude

def Binary64.Rounding.multiple (mode : Rounding) (unit : Nat) (n : Int) : Int :=
  withSignOf n (mode.quotient (decide (n < 0)) n.natAbs unit * unit)

/-- A multiple of a unit is the one that an integer is to be rounded to: the greatest that is not
above, the least that is not below, the farthest from zero that is not beyond, or the nearest, of
two equally near the one farther from zero. -/
def IsRounded (mode : Binary64.Rounding) (unit n m : Int) : Prop :=
  unit ∣ m ∧
    match mode with
    | .down => m ≤ n ∧ ∀ k, unit ∣ k → k ≤ n → k ≤ m
    | .up => n ≤ m ∧ ∀ k, unit ∣ k → n ≤ k → m ≤ k
    | .towardZero =>
        (0 ≤ m ∧ m ≤ n ∨ n ≤ m ∧ m ≤ 0) ∧ ∀ k, unit ∣ k → k.natAbs ≤ n.natAbs → k.natAbs ≤ m.natAbs
    | .halfAway =>
        ∀ k, unit ∣ k → (n - m).natAbs < (n - k).natAbs ∨
          (n - m).natAbs = (n - k).natAbs ∧ k.natAbs ≤ m.natAbs

variable {mode : Binary64.Rounding} {unit : Nat} {n m : Int}

theorem le_of_dvd_of_lt {k : Int} (first : (unit : Int) ∣ k) (second : (unit : Int) ∣ m)
    (near : k < m + unit) : k ≤ m := by
  obtain ⟨a, rfl⟩ := first
  obtain ⟨b, rfl⟩ := second
  have next : (unit : Int) * b + unit = unit * (b + 1) := by rw [Int.mul_add, Int.mul_one]
  rw [next] at near
  have := Int.lt_of_mul_lt_mul_left near (Int.natCast_nonneg unit)
  exact Int.mul_le_mul_of_nonneg_left (by omega) (Int.natCast_nonneg unit)

theorem add_le_of_dvd_of_lt {k : Int} (first : (unit : Int) ∣ k) (second : (unit : Int) ∣ m)
    (less : k < m) : k + unit ≤ m :=
  Int.not_lt.1 fun near => Int.not_le.2 less (le_of_dvd_of_lt second first near)

theorem natAbs_withSignOf (n : Int) (magnitude : Nat) :
    (withSignOf n magnitude).natAbs = magnitude := by
  unfold withSignOf
  split <;> omega

theorem dvd_multiple : (unit : Int) ∣ mode.multiple unit n := by
  rw [← Int.dvd_natAbs, Binary64.Rounding.multiple, natAbs_withSignOf]
  exact Int.natCast_dvd_natCast.2 (Nat.dvd_mul_left _ _)

theorem multiple_sign (mode : Binary64.Rounding) (unit : Nat) (n : Int) :
    (n < 0 → mode.multiple unit n ≤ 0) ∧ (0 ≤ n → 0 ≤ mode.multiple unit n) := by
  unfold Binary64.Rounding.multiple withSignOf
  split <;> omega

theorem multiple_bounds (mode : Binary64.Rounding) (n : Int) (positive : 0 < unit) :
    match mode with
    | .down => mode.multiple unit n ≤ n ∧ n < mode.multiple unit n + unit
    | .up => n ≤ mode.multiple unit n ∧ mode.multiple unit n < n + unit
    | .towardZero =>
        (mode.multiple unit n).natAbs ≤ n.natAbs ∧
          n.natAbs < (mode.multiple unit n).natAbs + unit
    | .halfAway =>
        2 * (mode.multiple unit n).natAbs ≤ 2 * n.natAbs + unit ∧
          2 * n.natAbs < 2 * (mode.multiple unit n).natAbs + unit := by
  have division := Nat.div_add_mod n.natAbs unit
  have below := Nat.mod_lt n.natAbs positive
  rw [Nat.mul_comm] at division
  have next : (n.natAbs / unit + 1) * unit = n.natAbs / unit * unit + unit := Nat.succ_mul _ _
  unfold Binary64.Rounding.multiple withSignOf Binary64.Rounding.quotient
  cases mode with
  | towardZero =>
      dsimp only
      split <;> omega
  | halfAway =>
      dsimp only
      split <;> split <;> omega
  | down | up =>
      dsimp only
      split
      all_goals
        rename_i sign
        simp only [sign, decide_true, decide_false, Bool.true_and, Bool.false_and, Bool.not_true,
          Bool.not_false, Bool.false_eq_true, if_false, Bool.not_eq_true', beq_eq_false_iff_ne]
        (try split) <;> omega

theorem isRounded_multiple (mode : Binary64.Rounding) (n : Int) (positive : 0 < unit) :
    IsRounded mode unit n (mode.multiple unit n) := by
  have own : (unit : Int) ∣ mode.multiple unit n := dvd_multiple
  have bounds := multiple_bounds mode n positive
  have sign := multiple_sign mode unit n
  refine ⟨own, ?_⟩
  cases mode with
  | down => exact ⟨bounds.1, fun k divides below => le_of_dvd_of_lt divides own (by omega)⟩
  | up => exact ⟨bounds.1, fun k divides above => le_of_dvd_of_lt own divides (by omega)⟩
  | towardZero =>
      refine ⟨by omega, fun k divides within => ?_⟩
      have := le_of_dvd_of_lt (Int.dvd_natAbs.2 divides) (Int.dvd_natAbs.2 own) (by omega)
      omega
  | halfAway =>
      intro k divides
      rcases Int.lt_trichotomy k (Binary64.Rounding.halfAway.multiple unit n) with
        less | same | more
      · have := add_le_of_dvd_of_lt divides own less
        omega
      · rw [same]
        exact Or.inr ⟨rfl, Nat.le_refl _⟩
      · have := add_le_of_dvd_of_lt own divides more
        omega

/-- An integer is rounded to this multiple and to no other. -/
theorem isRounded_iff (positive : 0 < unit) :
    IsRounded mode unit n m ↔ m = mode.multiple unit n := by
  constructor
  · intro rounded
    obtain ⟨divides, choice⟩ := rounded
    have own : (unit : Int) ∣ mode.multiple unit n := dvd_multiple
    have bounds := multiple_bounds mode n positive
    have sign := multiple_sign mode unit n
    cases mode with
    | down =>
        have above := choice.2 _ own bounds.1
        exact Int.le_antisymm (le_of_dvd_of_lt divides own (by omega)) above
    | up =>
        have below := choice.2 _ own bounds.1
        exact Int.le_antisymm below (le_of_dvd_of_lt own divides (by omega))
    | towardZero =>
        obtain ⟨side, farthest⟩ := choice
        have least := farthest _ own bounds.1
        rcases side with ⟨low, high⟩ | ⟨low, high⟩
        · have := le_of_dvd_of_lt divides own (by omega)
          omega
        · have := le_of_dvd_of_lt own divides (by omega)
          omega
    | halfAway =>
        have near := choice _ own
        have notBelowUnit (h : Binary64.Rounding.halfAway.multiple unit n < 0 + unit) :=
          le_of_dvd_of_lt own (Int.dvd_zero _) h
        have notAboveUnit (h : 0 < Binary64.Rounding.halfAway.multiple unit n + unit) :=
          le_of_dvd_of_lt (Int.dvd_zero _) own h
        rcases Int.lt_trichotomy m (Binary64.Rounding.halfAway.multiple unit n) with
          less | same | more
        · have := add_le_of_dvd_of_lt divides own less
          omega
        · exact same
        · have := add_le_of_dvd_of_lt own divides more
          omega
  · rintro rfl
    exact isRounded_multiple mode n positive

/-- A longer integer has a multiple of at most fifteen digits only below one unit, and this is
zero. -/
theorem quotient_eq_zero_of_long (negative : Bool) {whole zeros : Nat} (long : 10 ^ 15 ≤ whole)
    (short : mode.quotient negative whole (10 ^ zeros) * 10 ^ zeros < 10 ^ 15) :
    mode.quotient negative whole (10 ^ zeros) = 0 ∧ 16 ≤ zeros ∧ whole < 10 ^ zeros := by
  have positive : 0 < 10 ^ zeros := Nat.pow_pos (by decide)
  have part := (mode.quotient_bounds negative whole (10 ^ zeros)).1
  have large : 16 ≤ zeros := by
    by_contra few
    have power : 10 ^ (15 - zeros) * 10 ^ zeros = 10 ^ 15 := by
      rw [← Nat.pow_add]
      congr 1
      omega
    have enough := (Nat.le_div_iff_mul_le positive).2 (power.symm ▸ long)
    have := Nat.mul_le_mul_right (10 ^ zeros) (Nat.le_trans enough part)
    omega
  have unitLarge := Nat.pow_le_pow_right (show 0 < 10 by decide) large
  have none : mode.quotient negative whole (10 ^ zeros) = 0 := by
    by_contra some
    have := Nat.mul_le_mul_right (10 ^ zeros) (Nat.one_le_iff_ne_zero.2 some)
    omega
  exact ⟨none, large, Nat.lt_of_div_eq_zero positive (Nat.le_zero.1 (none ▸ part))⟩

end Spreadsheet

import Mathlib.Algebra.Order.Field.Power
import Mathlib.Algebra.Order.Ring.Rat
import Mathlib.Tactic.Positivity
import Targeting.Proofs.Numbers
/-!
# The number line

A finite number is worth `significand * 2 ^ scale`, negated if its sign bit is set
(`Binary64.worth`), and its rank grows with what it is worth (`worth_lt_worth_iff`). The ranks
of the infinities are below and above those of all other numbers.
-/

namespace Targeting.Binary64

variable {x y : Binary64}

/-- What a finite number is worth. -/
def worth (x : Binary64) : ℚ :=
  (if x.isNegative then -1 else 1) * (x.significand * 2 ^ x.scale)

/-- The size of a finite number in the smallest units, which are worth `2 ^ -1074`. -/
def units (x : Binary64) : ℕ := x.significand * 2 ^ (max x.exponentField 1 - 1)

/-! ## Sizes -/

theorem magnitude_eq (x : Binary64) : x.magnitude = x.exponentField * exponentUnit + x.fraction := by
  rw [exponentField, fraction, Nat.div_add_mod']

theorem fraction_lt (x : Binary64) : x.fraction < exponentUnit := Nat.mod_lt _ (by decide)

theorem units_of_exponentField_zero (h : x.exponentField = 0) : x.units = x.fraction := by
  simp [units, significand, h]

theorem units_of_exponentField_succ {k : ℕ} (h : x.exponentField = k + 1) :
    x.units = (exponentUnit + x.fraction) * 2 ^ k := by
  simp [units, significand, h]

/-- A number is smaller than the least one with the next exponent. -/
theorem units_lt_pow (x : Binary64) : x.units < exponentUnit * 2 ^ x.exponentField := by
  have hf := x.fraction_lt
  cases he : x.exponentField with
  | zero =>
    rw [units_of_exponentField_zero he]
    omega
  | succ k =>
    rw [units_of_exponentField_succ he, Nat.pow_succ', ← Nat.mul_assoc]
    exact Nat.mul_lt_mul_of_pos_right (by omega) (Nat.two_pow_pos k)

theorem pow_le_units {k : ℕ} (h : x.exponentField = k + 1) : exponentUnit * 2 ^ k ≤ x.units := by
  rw [units_of_exponentField_succ h]
  exact Nat.mul_le_mul_right _ (Nat.le_add_right ..)

theorem units_lt_units (h : x.magnitude < y.magnitude) : x.units < y.units := by
  rw [magnitude_eq, magnitude_eq] at h
  have hx := x.fraction_lt
  have hy := y.fraction_lt
  have he : x.exponentField < y.exponentField ∨ x.exponentField = y.exponentField := by
    simp only [exponentUnit] at *
    omega
  rcases he with hlt | heq
  · obtain ⟨k, hk⟩ := Nat.exists_eq_add_one.2 (Nat.zero_lt_of_lt hlt)
    calc x.units < exponentUnit * 2 ^ x.exponentField := units_lt_pow x
      _ ≤ exponentUnit * 2 ^ k := Nat.mul_le_mul_left _ (Nat.pow_le_pow_right (by decide) (by omega))
      _ ≤ y.units := pow_le_units hk
  · have hfraction : x.fraction < y.fraction := by
      rw [heq] at h
      omega
    cases hk : y.exponentField with
    | zero => rwa [units_of_exponentField_zero hk, units_of_exponentField_zero (heq.trans hk)]
    | succ k =>
      rw [units_of_exponentField_succ hk, units_of_exponentField_succ (heq.trans hk)]
      exact Nat.mul_lt_mul_of_pos_right (by omega) (Nat.two_pow_pos k)

theorem units_eq_of_magnitude_eq (h : x.magnitude = y.magnitude) : x.units = y.units := by
  unfold units significand exponentField fraction
  rw [h]

theorem units_lt_units_iff : x.units < y.units ↔ x.magnitude < y.magnitude := by
  refine ⟨fun h => ?_, units_lt_units⟩
  rcases Nat.lt_trichotomy x.magnitude y.magnitude with hlt | heq | hgt
  · exact hlt
  · rw [units_eq_of_magnitude_eq heq] at h
    exact absurd h (Nat.lt_irrefl _)
  · exact absurd h (Nat.lt_asymm (units_lt_units hgt))

theorem units_pos_iff : 0 < x.units ↔ 0 < x.magnitude := units_lt_units_iff (x := zero)

/-! ## Ranks -/

theorem worth_eq (x : Binary64) : x.worth =
    ((if x.isNegative then -x.units else x.units : ℤ) : ℚ) * 2 ^ (-1074 : ℤ) := by
  have hscale : x.scale = ((max x.exponentField 1 - 1 : ℕ) : ℤ) + -1074 := by
    rw [scale]
    omega
  rw [worth, hscale, zpow_add₀ two_ne_zero, zpow_natCast]
  cases x.isNegative <;> simp [units, mul_assoc]

theorem worth_lt_worth_iff : x.worth < y.worth ↔ x.rank < y.rank := by
  have hpos : (0 : ℚ) < 2 ^ (-1074 : ℤ) := by positivity
  rw [worth_eq, worth_eq, mul_lt_mul_iff_left₀ hpos, Int.cast_lt, rank, rank]
  have hxy := units_lt_units_iff (x := x) (y := y)
  have hyx := units_lt_units_iff (x := y) (y := x)
  have hx := units_pos_iff (x := x)
  have hy := units_pos_iff (x := y)
  cases x.isNegative <;> cases y.isNegative <;> simp <;> omega

theorem natAbs_rank_le (h : x.isNaN = false) : x.rank.natAbs ≤ infiniteMagnitude := by
  rw [natAbs_rank]
  simpa [isNaN] using h

theorem eq_infinity_of_rank_eq {negative : Bool} (hx : x.isNaN = false)
    (h : x.rank = (infinity negative).rank) : x = infinity negative := by
  have hn : (infinity negative).isNaN = false := by cases negative <;> rfl
  have hz : (infinity negative).isZero = false := by cases negative <;> rfl
  have hequal : x.equal (infinity negative) := by simp [equal, hx, hn, h]
  rcases interchangeable_of_equal hequal with heq | ⟨-, hzero⟩
  · exact heq
  · rw [hz] at hzero
    cases hzero

theorem rank_infinity_lt_or_eq (h : x.isNaN = false) :
    (infinity true).rank < x.rank ∨ x = infinity true := by
  have hle := natAbs_rank_le h
  have hr : (infinity true).rank = -infiniteMagnitude := rfl
  by_cases heq : x.rank = (infinity true).rank
  · exact .inr (eq_infinity_of_rank_eq h heq)
  · left
    omega

theorem rank_lt_infinity_or_eq (h : x.isNaN = false) :
    x.rank < (infinity false).rank ∨ x = infinity false := by
  have hle := natAbs_rank_le h
  have hr : (infinity false).rank = infiniteMagnitude := rfl
  by_cases heq : x.rank = (infinity false).rank
  · exact .inr (eq_infinity_of_rank_eq h heq)
  · left
    omega

end Targeting.Binary64

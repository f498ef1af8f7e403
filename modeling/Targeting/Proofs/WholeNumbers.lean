import Targeting.Proofs.ShortestDecimals
/-!
# Whole numbers

The size that `wholeSize?` finds is what the number is worth (`wholeSize?_eq_some_iff`). Up to
`2 ^ 53 - 1` the span of a whole number has no other integer in it, so the shortest decimal is
that integer (`shortest_of_wholeSize?`).
-/

namespace Targeting

open Binary64

variable {x : Binary64}

namespace Binary64

theorem size_pos (hx : 0 < x.magnitude) : 0 < x.size :=
  pos_of_mem_span hx (size_mem_span hx)

theorem den_pos (x : Binary64) : 0 < x.den := Nat.pow_pos (by decide)

theorem size_eq_div (x : Binary64) : x.size = x.num / x.den := by
  have hscale := ReadingInterval.zpow_eq_div (b := 2) (by decide) x.scale
  rw [Nat.cast_ofNat] at hscale
  rw [size, hscale, num, den, Nat.cast_mul, mul_div_assoc]

/-- A number is whole if its quotient leaves no remainder. -/
theorem wholeSize?_eq (x : Binary64) :
    x.wholeSize? = if x.num % x.den = 0 then some (x.num / x.den) else none := by
  have hone : Nat.pow 2 0 = 1 := rfl
  rw [wholeSize?, num, den]
  split
  · next hpos =>
    have hzero : (-x.scale).toNat = 0 := by omega
    rw [hzero, hone, Nat.mod_one, if_pos rfl, Nat.div_one]
  · next hneg =>
    have hzero : x.scale.toNat = 0 := by omega
    rw [hzero, hone, Nat.mul_one]

/-- The size of a whole number. -/
theorem wholeSize?_eq_some_iff {n : ℕ} : x.wholeSize? = some n ↔ x.size = n := by
  have hden := x.den_pos
  rw [wholeSize?_eq, size_eq_div, div_eq_iff (Nat.cast_ne_zero.2 hden.ne'), ← Nat.cast_mul,
    Nat.cast_inj, Option.ite_none_right_eq_some, Option.some.injEq]
  constructor
  · rintro ⟨hmod, rfl⟩
    exact (Nat.div_mul_cancel (Nat.dvd_of_mod_eq_zero hmod)).symm
  · intro h
    rw [h]
    exact ⟨Nat.mul_mod_left .., Nat.mul_div_cancel n hden⟩

/-- No number up to the largest exact integer has a span that reaches more than a half. -/
theorem reach_le_half (h : x.size ≤ maxExactInt) : reach x.magnitude ≤ 1 / 2 := by
  have hscale : x.scale ≤ 0 := by
    by_contra hpos
    have hsig : exponentUnit ≤ x.significand := by
      have hfield : x.exponentField ≠ 0 := by
        rw [scale] at hpos
        omega
      rw [significand, if_neg hfield]
      exact Nat.le_add_right ..
    have hpow : (2 : ℚ) ≤ 2 ^ x.scale := by
      have := zpow_le_zpow_right₀ (a := (2 : ℚ)) (by norm_num) (show 1 ≤ x.scale by omega)
      rwa [zpow_one] at this
    have hlow : (exponentUnit * 2 : ℚ) ≤ x.size :=
      mul_le_mul (Nat.cast_le.2 hsig) hpow (by norm_num) (by positivity)
    have := hlow.trans h
    norm_num [exponentUnit, maxExactInt] at this
  have hpow : (2 : ℚ) ^ x.scale ≤ 1 := zpow_le_one_of_nonpos₀ (by norm_num) hscale
  have hreach : (2 : ℚ) ^ x.scale = 2 * reach x.magnitude := by
    rw [two_zpow_scale, reach, mul_div_assoc]
  linarith

theorem exactInt?_eq_some {i : ℤ} (h : x.exactInt? = some i) :
    x.isFinite ∧ ∃ n : ℕ, x.wholeSize? = some n ∧ n ≤ maxExactInt ∧
      i = if x.isNegative then -(n : ℤ) else n := by
  rw [exactInt?] at h
  split at h
  · next hfin =>
    cases hw : x.wholeSize? with
    | none =>
      rw [hw] at h
      cases h
    | some n =>
      simp only [hw] at h
      split at h
      · next hn =>
        cases h
        exact ⟨hfin, n, rfl, hn, rfl⟩
      · cases h
  · cases h

end Binary64

namespace Decimal

/-- The shortest decimal of an integer up to the largest exact one is that integer. -/
theorem shortest_of_wholeSize? {n : ℕ} (hx : 0 < x.magnitude) (hfin : x.isFinite)
    (h : x.wholeSize? = some n) (hn : n ≤ maxExactInt) :
    ∃ k : ℕ, (shortest x).exponent = k ∧ (shortest x).digits * 10 ^ k = n := by
  have hsize := wholeSize?_eq_some_iff.1 h
  have hwhole : value ⟨n, 0⟩ ∈ span x.magnitude := by
    rw [value_mk, zpow_zero, mul_one, ← hsize]
    exact size_mem_span hx
  obtain ⟨k, hk⟩ := Int.eq_ofNat_of_zero_le (exponent_le_of_mem_span hx hfin hwhole)
  refine ⟨k, hk, ?_⟩
  have hvalue : (shortest x).value = ((shortest x).digits * 10 ^ k : ℕ) := by
    rw [value, hk]
    push_cast
    rw [zpow_natCast]
  have hnear := abs_sub_size_le (shortest_coarsest hx hfin).1
  have hhalf : reach x.magnitude ≤ 1 / 2 := reach_le_half (hsize ▸ Nat.cast_le.2 hn)
  have hlt := (hnear.trans hhalf).trans_lt (by norm_num : (1 / 2 : ℚ) < 1)
  rw [hvalue, hsize] at hlt
  -- two integers less than 1 apart
  have hint : |(((shortest x).digits * 10 ^ k : ℕ) : ℤ) - n| < 1 := by exact_mod_cast hlt
  rw [Int.abs_lt_one_iff] at hint
  omega

end Decimal

end Targeting

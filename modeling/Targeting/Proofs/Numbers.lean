import Targeting.Binary64.Rounding
import Targeting.Value.Text
/-!
# Numbers that count as the same

Equality of numbers tells all of them apart but the two zeros, and a NaN equals
nothing. Order, truth and text do not tell the zeros apart either.
-/

namespace Targeting

namespace Binary64

/-- Whether two numbers are one, or are the two zeros. -/
def Interchangeable (x y : Binary64) : Prop := x = y ∨ (x.isZero ∧ y.isZero)

variable {x y : Binary64}

theorem isNaN_of_isZero (h : x.isZero) : x.isNaN = false := by
  simp only [isZero, beq_iff_eq] at h
  simp [isNaN, h]

theorem isNaN_of_isFinite (h : x.isFinite) : x.isNaN = false := by
  simp only [isFinite, decide_eq_true_eq] at h
  simp only [isNaN, decide_eq_false_iff_not]
  omega

theorem rank_of_isZero (h : x.isZero) : x.rank = 0 := by
  simp only [isZero, beq_iff_eq] at h
  simp [rank, h]

theorem isFinite_of_isZero (h : x.isZero) : x.isFinite := by
  simp only [isZero, beq_iff_eq] at h
  simp [isFinite, h, infiniteMagnitude, exponentUnit]

theorem isInfinite_of_isFinite (h : x.isFinite) : x.isInfinite = false := by
  simp only [isFinite, decide_eq_true_eq] at h
  simp only [isInfinite, beq_eq_false_iff_ne]
  omega

/-- Both zeros are the integer 0. -/
theorem exactInt?_of_isZero (h : x.isZero) : x.exactInt? = some 0 := by
  have hs : x.significand = 0 := by
    simp only [isZero, beq_iff_eq] at h
    simp [significand, exponentField, fraction, h]
  have hw : x.wholeSize? = some 0 := by simp [wholeSize?, hs]
  simp [exactInt?, isFinite_of_isZero h, hw, maxExactInt]

theorem numberText_of_isZero (h : x.isZero) : Value.numberText x = "0" := by
  simp only [Value.numberText, isNaN_of_isZero h, isInfinite_of_isFinite (isFinite_of_isZero h),
    Value.needsExponent, h, exactInt?_of_isZero h]
  rfl

namespace Interchangeable

theorem isZero_eq (h : Interchangeable x y) : x.isZero = y.isZero := by
  rcases h with rfl | ⟨hx, hy⟩
  · rfl
  · rw [hx, hy]

theorem isNaN_eq (h : Interchangeable x y) : x.isNaN = y.isNaN := by
  rcases h with rfl | ⟨hx, hy⟩
  · rfl
  · rw [isNaN_of_isZero hx, isNaN_of_isZero hy]

theorem rank_eq (h : Interchangeable x y) : x.rank = y.rank := by
  rcases h with rfl | ⟨hx, hy⟩
  · rfl
  · rw [rank_of_isZero hx, rank_of_isZero hy]

/-- Both zeros are written `0`. -/
theorem numberText_eq (h : Interchangeable x y) : Value.numberText x = Value.numberText y := by
  rcases h with rfl | ⟨hx, hy⟩
  · rfl
  · rw [numberText_of_isZero hx, numberText_of_isZero hy]

end Interchangeable

theorem word_eq (x : Binary64) : x.word = (if x.isNegative then signUnit else 0) + x.magnitude := by
  have h : x.word < 2 * signUnit := x.bits.toNat_lt
  simp only [isNegative, magnitude, decide_eq_true_eq]
  split <;> simp only [signUnit] at * <;> omega

theorem eq_of_word_eq (h : x.word = y.word) : x = y := by
  cases x; cases y
  simpa [word, UInt64.toNat_inj] using h

theorem natAbs_rank (x : Binary64) : x.rank.natAbs = x.magnitude := by
  unfold rank
  split <;> omega

/-- Equal numbers are one, or are the two zeros. -/
theorem interchangeable_of_equal (h : x.equal y) : Interchangeable x y := by
  simp only [equal, Bool.and_eq_true, beq_iff_eq] at h
  have hr := h.2
  have hm : x.magnitude = y.magnitude := by
    rw [← natAbs_rank x, ← natAbs_rank y, hr]
  by_cases h0 : x.magnitude = 0
  · right
    exact ⟨by simp [isZero, h0], by simp [isZero, ← hm, h0]⟩
  · -- ranks of one size other than zero are equal only if their signs are
    have hn : x.isNegative = y.isNegative := by
      simp only [rank, hm] at hr
      rw [hm] at h0
      cases hx : x.isNegative <;> cases hy : y.isNegative <;> simp [hx, hy] at hr ⊢ <;> omega
    left
    apply eq_of_word_eq
    rw [word_eq x, word_eq y, hm, hn]

/-- A whole number is not a NaN, however large. -/
theorem isNaN_ofNat (n : Nat) : (ofNat n).isNaN = false := by
  have hm : magnitudeOfRatio n 1 ≤ infiniteMagnitude := Nat.min_le_right ..
  have hw : (ofNat n).word = magnitudeOfRatio n 1 := by
    simp only [infiniteMagnitude, exponentUnit] at hm
    simp [ofNat, ofRatio, ofMagnitude, word, UInt64.toNat_ofNat']
    omega
  simp only [infiniteMagnitude, exponentUnit] at hm
  simp [isNaN, magnitude, hw, infiniteMagnitude, exponentUnit, signUnit]
  omega

end Binary64

end Targeting

import Mathlib.Data.Nat.Cast.Order.Field
import Mathlib.Data.Rat.Floor
import Targeting.Proofs.NumberTexts
/-!
# Exact integers

The integer that a number is can be found by converting the number to a 64-bit integer, which
drops its fractional part, and that integer back to a number, which has to be the same. Up to
`2 ^ 53 - 1` neither conversion is inexact: the first is within the range of the integers
(`toInt_toInt64`), and the second does not round (`worth_ofInt`). So the way there and back finds
an integer just if the number is one (`exact_integers`).
-/

namespace Targeting.Binary64

variable {x y : Binary64}

/-! ## There and back -/

/-- A finite number without its fractional part. An infinity counts as `2 ^ 1024`, which is more
than any finite number. -/
def truncated (x : Binary64) : ℤ :=
  if x.isNegative then -(x.num / x.den : ℕ) else (x.num / x.den : ℕ)

/-- The conversion to a 64-bit integer drops the fractional part. It gives the largest integer
for a number that is too large, the smallest for one that is too small, and 0 for a NaN. -/
def toInt64 (x : Binary64) : Int64 := if x.isNaN then 0 else .ofIntClamp x.truncated

/-- The number nearest to a 64-bit integer. -/
def ofInt64 (i : Int64) : Binary64 := .ofInt i.toInt

/-- The conversion to a 64-bit integer of numbers up to `maxExactInt` in size. -/
def safeInt64? (x : Binary64) : Option Int64 :=
  if (x.abs.order? (.ofNat maxExactInt)).any Ordering.isLE then some x.toInt64 else none

/-- The 64-bit integer that a number converts to, if that converts back to the number. -/
def exactInt64? (x : Binary64) : Option Int64 :=
  x.safeInt64?.filter fun i => (ofInt64 i).equal x

/-! ## Worth and size -/

theorem size_nonneg (x : Binary64) : 0 ≤ x.size := by
  rw [size]
  positivity

theorem worth_eq_size (x : Binary64) : x.worth = if x.isNegative then -x.size else x.size := by
  rw [worth, size]
  split <;> ring

theorem abs_worth (x : Binary64) : |x.worth| = x.size := by
  rw [worth_eq_size]
  split
  · rw [abs_neg, abs_of_nonneg x.size_nonneg]
  · rw [abs_of_nonneg x.size_nonneg]

theorem size_lt_size_iff : x.size < y.size ↔ x.magnitude < y.magnitude := by
  rw [size_eq, size_eq, div_lt_div_iff_of_pos_right halvesInOne_pos, Nat.cast_lt,
    Nat.mul_lt_mul_left (by decide), unitsOf_strictMono.lt_iff_lt]

theorem size_le_size_iff : x.size ≤ y.size ↔ x.magnitude ≤ y.magnitude := by
  rw [← not_lt, size_lt_size_iff, not_lt]

/-- Finite numbers are equal if they are worth the same. -/
theorem equal_iff_worth_eq (hx : x.isFinite) (hy : y.isFinite) : x.equal y ↔ x.worth = y.worth := by
  have hlt := worth_lt_worth_iff (x := x) (y := y)
  have hgt := worth_lt_worth_iff (x := y) (y := x)
  have hrank : x.worth = y.worth ↔ x.rank = y.rank := by
    rw [eq_iff_le_not_lt, ← not_lt, hlt, hgt]
    omega
  simp [equal, isNaN_of_isFinite hx, isNaN_of_isFinite hy, hrank]

/-! ## Whole numbers -/

/-- A number is an exact integer if it is worth that and at most `maxExactInt` in size. -/
theorem exactInt?_eq_some_iff {i : ℤ} : x.exactInt? = some i ↔
    x.isFinite ∧ |x.worth| ≤ maxExactInt ∧ x.worth = i := by
  constructor
  · intro h
    obtain ⟨hfin, n, hw, hn, rfl⟩ := exactInt?_eq_some h
    rw [wholeSize?_eq_some_iff] at hw
    refine ⟨hfin, ?_, ?_⟩
    · rw [abs_worth, hw]
      exact Nat.cast_le.2 hn
    · rw [worth_eq_size, hw]
      split <;> push_cast <;> rfl
  · rintro ⟨hfin, hle, hworth⟩
    have hsize : x.size = i.natAbs := by
      rw [← abs_worth, hworth, Nat.cast_natAbs, Int.cast_abs]
    have hn : i.natAbs ≤ maxExactInt := by
      rw [abs_worth, hsize] at hle
      exact Nat.cast_le.1 hle
    -- the sign bit of a zero may be set, so the sign is read off what the number is worth
    have hsign : (if x.isNegative then -(i.natAbs : ℤ) else i.natAbs) = i := by
      have hcast : ((if x.isNegative then -(i.natAbs : ℤ) else i.natAbs : ℤ) : ℚ) = i := by
        rw [← hworth, worth_eq_size, hsize]
        cases x.isNegative <;> simp
      exact_mod_cast hcast
    simp only [exactInt?, hfin, if_true, wholeSize?_eq_some_iff.2 hsize, hn, hsign]

/-! ## The way there -/

theorem truncated_eq (x : Binary64) :
    x.truncated = if x.worth < 0 then ⌈x.worth⌉ else ⌊x.worth⌋ := by
  have hfloor : ⌊x.size⌋ = (x.num / x.den : ℕ) := by
    rw [size_eq_div, Rat.floor_natCast_div_natCast, Int.natCast_div]
  have hnonneg := x.size_nonneg
  rw [truncated, worth_eq_size, ← hfloor]
  cases x.isNegative with
  | false => simp [not_lt.2 hnonneg]
  | true =>
    -- toward zero is up here, and a negative zero is no negative worth
    by_cases hpos : 0 < x.size
    · simp [hpos, Int.ceil_neg]
    · have hzero : x.size = 0 := le_antisymm (not_lt.1 hpos) hnonneg
      simp [hzero]

theorem truncated_of_worth_eq {i : ℤ} (h : x.worth = i) : x.truncated = i := by
  rw [truncated_eq, h, Int.ceil_intCast, Int.floor_intCast, ite_self]

theorem natAbs_truncated_le {n : ℕ} (h : |x.worth| ≤ n) : x.truncated.natAbs ≤ n := by
  have hnat : x.truncated.natAbs = x.num / x.den := by
    rw [truncated]
    split
    · rw [Int.natAbs_neg, Int.natAbs_natCast]
    · rw [Int.natAbs_natCast]
  have hdiv : ((x.num / x.den : ℕ) : ℚ) ≤ x.num / x.den := Nat.cast_div_le
  rw [abs_worth, size_eq_div] at h
  rw [hnat]
  exact Nat.cast_le.1 (hdiv.trans h)

/-- A number up to `maxExactInt` in size is not too large for a 64-bit integer. -/
theorem toInt_toInt64 (hfin : x.isFinite) (h : |x.worth| ≤ maxExactInt) :
    x.toInt64.toInt = x.truncated := by
  have hle := natAbs_truncated_le h
  have hmin : Int64.minValue.toInt = -0x8000000000000000 := rfl
  have hmax : Int64.maxValue.toInt = 0x7fffffffffffffff := rfl
  rw [toInt64, isNaN_of_isFinite hfin, if_neg Bool.false_ne_true]
  simp only [maxExactInt] at hle
  exact Int64.toInt_ofIntClamp (by omega) (by omega)

/-! ## The way back -/

theorem roundHalfEven_of_dvd {a d : ℕ} (hd : 0 < d) (h : d ∣ a) : roundHalfEven a d = a / d := by
  simp [roundHalfEven, Nat.mod_eq_zero_of_dvd h, hd]

section

variable {n k scaled : ℕ} (hn : n < 2 * exponentUnit) (hscaled : n * Nat.pow 2 k = scaled)

include hn hscaled

/-- A number of 53 bits times `2 ^ k` is rounded at the place `k` or below, where it has no bits. -/
theorem placeOf_le : placeOf scaled 1 ≤ k := by
  rw [placeOf, unitPlace, Nat.div_one]
  by_cases h0 : scaled = 0
  · rw [h0, Nat.log2_zero]
    omega
  · have hlt : scaled < 2 ^ (53 + k) := by
      rw [← hscaled, Nat.pow_add]
      exact Nat.mul_lt_mul_of_pos_right hn (Nat.two_pow_pos k)
    have hlog := (Nat.log2_lt h0).2 hlt
    omega

theorem unitsOf_nearestMagnitude_one : unitsOf (nearestMagnitude scaled 1) = scaled := by
  have hpow : 2 ^ k ∣ scaled := ⟨n, by rw [← hscaled, Nat.mul_comm]; rfl⟩
  have hdvd : 2 ^ placeOf scaled 1 ∣ scaled :=
    (Nat.pow_dvd_pow 2 (placeOf_le hn hscaled)).trans hpow
  rw [unitsOf_nearestMagnitude _ Nat.one_pos, significandOf, Nat.one_mul,
    roundHalfEven_of_dvd (Nat.two_pow_pos _) hdvd, Nat.div_mul_cancel hdvd]

theorem nearestMagnitude_one_lt (hk : k ≤ 2044) : nearestMagnitude scaled 1 < infiniteMagnitude := by
  have hsig := significandOf_le_two_mul scaled Nat.one_pos
  have hplace : placeOf scaled 1 * exponentUnit ≤ 2044 * exponentUnit :=
    Nat.mul_le_mul_right _ ((placeOf_le hn hscaled).trans hk)
  rw [nearestMagnitude]
  simp only [infiniteMagnitude, exponentUnit] at *
  omega

end

/-- A whole number of 53 bits is not rounded. -/
theorem size_ofRatio_one {n : ℕ} (hn : n ≤ maxExactInt) (negative : Bool) :
    (ofRatio negative n 1).isFinite ∧ (ofRatio negative n 1).size = n := by
  have hbits : n < 2 * exponentUnit := by
    simp only [maxExactInt, exponentUnit] at *
    omega
  have hhalves := mul_halvesInOne n
  rw [isFinite, size_eq, magnitude_ofRatio, magnitudeOfRatio_eq]
  generalize hscaled : n * Nat.pow 2 1074 = scaled at hhalves ⊢
  have hlt := nearestMagnitude_one_lt hbits hscaled (by decide)
  rw [Nat.min_eq_left hlt.le, unitsOf_nearestMagnitude_one hbits hscaled, ← hhalves,
    mul_div_cancel_right₀ _ halvesInOne_pos.ne']
  exact ⟨decide_eq_true hlt, rfl⟩

/-- An integer up to `maxExactInt` in size is not rounded. -/
theorem worth_ofInt {i : ℤ} (hi : i.natAbs ≤ maxExactInt) :
    (ofInt i).isFinite ∧ (ofInt i).worth = i := by
  obtain ⟨hfin, hsize⟩ := size_ofRatio_one hi (i < 0)
  refine ⟨hfin, ?_⟩
  rw [worth_eq_size, ofInt, hsize, isNegative_ofRatio, Nat.cast_natAbs]
  by_cases hneg : i < 0
  · simp [hneg, abs_of_neg hneg]
  · simp [hneg, abs_of_nonneg (not_lt.1 hneg)]

/-! ## Both ways -/

/-- The bound is tested by comparing numbers. -/
theorem isLE_order?_abs_iff : (x.abs.order? (ofNat maxExactInt)).any Ordering.isLE ↔
    x.isFinite ∧ |x.worth| ≤ maxExactInt := by
  obtain ⟨hfin, hsize⟩ : (ofNat maxExactInt).isFinite ∧ (ofNat maxExactInt).size = maxExactInt :=
    size_ofRatio_one le_rfl false
  cases hx : x.isNaN with
  | true =>
    have hxfin : x.isFinite = false := by
      rw [Bool.eq_false_iff]
      intro h
      rw [isNaN_of_isFinite h] at hx
      cases hx
    simp [order?, isNaN_abs, hx, hxfin]
  | false =>
    have hneg : (ofNat maxExactInt).isNegative = false := isNegative_ofRatio ..
    rw [order?_abs hx (isNaN_of_isFinite hfin) hneg, Option.any_some, Std.isLE_compare,
      Int.ofNat_le, abs_worth, ← hsize, size_le_size_iff, iff_and_self]
    intro hle
    rw [isFinite, decide_eq_true_eq] at hfin ⊢
    exact hle.trans_lt hfin

theorem safeInt64?_eq_some_iff {i : Int64} : x.safeInt64? = some i ↔
    (x.isFinite ∧ |x.worth| ≤ maxExactInt) ∧ x.truncated = i.toInt := by
  rw [safeInt64?, ← isLE_order?_abs_iff]
  by_cases h : (x.abs.order? (ofNat maxExactInt)).any Ordering.isLE
  · obtain ⟨hfin, hle⟩ := isLE_order?_abs_iff.1 h
    rw [if_pos h, Option.some.injEq, ← Int64.toInt_inj, toInt_toInt64 hfin hle]
    simp [h]
  · simp [h]

/-- What the conversion gives is not rounded on the way back. -/
theorem worth_ofInt64 {i : Int64} (h : x.safeInt64? = some i) :
    (ofInt64 i).isFinite ∧ (ofInt64 i).worth = i.toInt := by
  obtain ⟨⟨-, hle⟩, htruncated⟩ := safeInt64?_eq_some_iff.1 h
  exact worth_ofInt (htruncated ▸ natAbs_truncated_le hle)

theorem exactInt64?_eq_some_iff {i : Int64} : x.exactInt64? = some i ↔
    x.isFinite ∧ |x.worth| ≤ maxExactInt ∧ x.worth = i.toInt := by
  rw [exactInt64?, Option.filter_eq_some_iff]
  constructor
  · rintro ⟨hsafe, hequal⟩
    obtain ⟨hback, hworth⟩ := worth_ofInt64 hsafe
    obtain ⟨⟨hfin, hle⟩, -⟩ := safeInt64?_eq_some_iff.1 hsafe
    refine ⟨hfin, hle, ?_⟩
    rw [← hworth, (equal_iff_worth_eq hback hfin).1 hequal]
  · rintro ⟨hfin, hle, hworth⟩
    have hsafe := safeInt64?_eq_some_iff.2 ⟨⟨hfin, hle⟩, truncated_of_worth_eq hworth⟩
    obtain ⟨hback, hworth'⟩ := worth_ofInt64 hsafe
    exact ⟨hsafe, (equal_iff_worth_eq hback hfin).2 (hworth'.trans hworth.symm)⟩

/-- The way there and back finds the integer that a number is. -/
theorem map_toInt_exactInt64? (x : Binary64) : x.exactInt64?.map Int64.toInt = x.exactInt? := by
  ext i
  rw [Option.map_eq_some_iff, exactInt?_eq_some_iff]
  constructor
  · rintro ⟨j, hj, rfl⟩
    exact exactInt64?_eq_some_iff.1 hj
  · rintro ⟨hfin, hle, hworth⟩
    have hconverted : x.toInt64.toInt = i :=
      (toInt_toInt64 hfin hle).trans (truncated_of_worth_eq hworth)
    refine ⟨x.toInt64, exactInt64?_eq_some_iff.2 ⟨hfin, hle, ?_⟩, hconverted⟩
    rw [hworth, hconverted]

theorem exactInt?_eq_of_equal (h : x.equal y) : x.exactInt? = y.exactInt? := by
  rcases interchangeable_of_equal h with rfl | ⟨hx, hy⟩
  · rfl
  · rw [exactInt?_of_isZero hx, exactInt?_of_isZero hy]

theorem maxExactInt_eq : (maxExactInt : ℚ) = 2 ^ 53 - 1 := by norm_num [maxExactInt]

/-- A number is given an integer just if it is finite, has no fractional part and is at most
`2 ^ 53 - 1` in size, and then the integer that it is worth; for both zeros that is 0. The same
integer is found by converting there and back: within that bound the way there only drops the
fractional part, and the way back keeps what the integer is worth. Equal numbers are given one
integer. -/
theorem exact_integers (x : Binary64) :
    (x.exactInt?.isSome ↔ x.isFinite ∧ Int.fract x.worth = 0 ∧ |x.worth| ≤ 2 ^ 53 - 1) ∧
    (∀ i : ℤ, x.exactInt? = some i → x.worth = i) ∧
    (x.isZero → x.exactInt? = some 0) ∧
    x.exactInt? = x.exactInt64?.map Int64.toInt ∧
    (x.safeInt64?.isSome ↔ x.isFinite ∧ |x.worth| ≤ 2 ^ 53 - 1) ∧
    (∀ i : Int64, x.safeInt64? = some i →
      i.toInt = (if x.worth < 0 then ⌈x.worth⌉ else ⌊x.worth⌋) ∧
        (ofInt64 i).isFinite ∧ (ofInt64 i).worth = i.toInt) ∧
    ∀ y : Binary64, x.equal y → x.exactInt? = y.exactInt? := by
  rw [← maxExactInt_eq]
  refine ⟨?_, ?_, exactInt?_of_isZero, (map_toInt_exactInt64? x).symm, ?_, ?_,
    fun y => exactInt?_eq_of_equal⟩
  · rw [Option.isSome_iff_exists, Int.fract_eq_zero_iff]
    constructor
    · rintro ⟨i, hi⟩
      obtain ⟨hfin, hle, hworth⟩ := exactInt?_eq_some_iff.1 hi
      exact ⟨hfin, ⟨i, hworth.symm⟩, hle⟩
    · rintro ⟨hfin, ⟨i, hworth⟩, hle⟩
      exact ⟨i, exactInt?_eq_some_iff.2 ⟨hfin, hle, hworth.symm⟩⟩
  · intro i hi
    exact (exactInt?_eq_some_iff.1 hi).2.2
  · rw [← isLE_order?_abs_iff, safeInt64?]
    split <;> simp_all
  · intro i hi
    obtain ⟨-, htruncated⟩ := safeInt64?_eq_some_iff.1 hi
    exact ⟨htruncated.symm.trans (truncated_eq x), worth_ofInt64 hi⟩

/-- The least number that is given an integer, the greatest that is not whole, and the negative
zero. -/
theorem exact_integers_at_bound :
    let least : Binary64 := ⟨0xc33fffffffffffff⟩
    let half : Binary64 := ⟨0x432fffffffffffff⟩
    let minusZero : Binary64 := ofMagnitude true 0
    (least.exactInt? = some (-9007199254740991) ∧ least.worth = (-9007199254740991 : ℤ)) ∧
    (half.safeInt64? = some 4503599627370495 ∧
      (4503599627370495 : Int64).toInt = (if half.worth < 0 then ⌈half.worth⌉ else ⌊half.worth⌋) ∧
      (ofInt64 4503599627370495).isFinite ∧
      (ofInt64 4503599627370495).worth = (4503599627370495 : Int64).toInt ∧ half.exactInt? = none) ∧
    minusZero.isZero ∧ minusZero.exactInt? = some 0 ∧
      minusZero.equal zero ∧ minusZero.exactInt? = zero.exactInt? := by
  intro least half minusZero
  have hleast : least.exactInt? = some (-9007199254740991) := by decide +kernel
  have hhalf : half.safeInt64? = some 4503599627370495 := by decide +kernel
  have hzero : minusZero.isZero := by decide
  have hequal : minusZero.equal zero := by decide
  obtain ⟨-, hworth, -⟩ := exact_integers least
  obtain ⟨-, -, -, -, -, hcast, -⟩ := exact_integers half
  obtain ⟨-, -, hzeros, -, -, -, hequals⟩ := exact_integers minusZero
  obtain ⟨hthere, hfin, hback⟩ := hcast _ hhalf
  exact ⟨⟨hleast, hworth _ hleast⟩, ⟨hhalf, hthere, hfin, hback, by decide +kernel⟩, hzero,
    hzeros hzero, hequal, hequals zero hequal⟩

end Targeting.Binary64

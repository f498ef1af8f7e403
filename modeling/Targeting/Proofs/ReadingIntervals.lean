import Targeting.Decimal.Shortest
import Targeting.Proofs.Rounding
/-!
# The decimals that read back as a number

The interval that `ReadingInterval.ofSize` computes with is the span of the number
(`contains_iff`). So `nearest?` finds a multiple of a power of ten in the span just if there is
one, and then the nearest to the number.
-/

namespace Targeting

namespace Binary64

/-! ## The size of a number -/

/-- What a finite number is worth without its sign. -/
def size (x : Binary64) : ℚ := x.significand * 2 ^ x.scale

theorem unitsOf_magnitude (x : Binary64) :
    unitsOf x.magnitude = x.significand * gapAfter x.magnitude := rfl

theorem two_zpow_scale (x : Binary64) :
    (2 : ℚ) ^ x.scale = 2 * gapAfter x.magnitude / halvesInOne := by
  have hscale : x.scale = ((x.exponentField - 1 : ℕ) : ℤ) - (1074 : ℕ) := by
    rw [scale]
    omega
  have hgap : gapAfter x.magnitude = 2 ^ (x.exponentField - 1) := rfl
  rw [hscale, hgap, halvesInOne, mul_div_mul_left _ _ two_ne_zero, zpow_sub₀ two_ne_zero,
    zpow_natCast, zpow_natCast, Nat.cast_pow, Nat.cast_two]

theorem size_eq (x : Binary64) : x.size = (2 * unitsOf x.magnitude : ℕ) / halvesInOne := by
  rw [size, two_zpow_scale, unitsOf_magnitude]
  push_cast
  ring

theorem halfwayBefore_lt {m : ℕ} (hm : 0 < m) : halfwayBefore m < 2 * unitsOf m := by
  obtain ⟨k, rfl⟩ := Nat.exists_eq_add_one.2 hm
  have h := halfway_add_gapAfter k
  have hgap := gapAfter_pos k
  simp only [halfwayBefore]
  omega

theorem two_mul_unitsOf_le (m : ℕ) : 2 * unitsOf m ≤ halfwayBefore m + gapAfter m := by
  cases m with
  | zero => simp [unitsOf]
  | succ k =>
    have h := halfway_add_gapAfter k
    have hgap : gapAfter k ≤ gapAfter (k + 1) :=
      Nat.pow_le_pow_right (by decide) (Nat.sub_le_sub_right (Nat.div_le_div_right (Nat.le_succ k)) 1)
    simp only [halfwayBefore]
    omega

/-- How far a span reaches above the size in its middle, and at most below it. -/
def reach (m : ℕ) : ℚ := gapAfter m / halvesInOne

theorem reach_pos (m : ℕ) : 0 < reach m :=
  div_pos (Nat.cast_pos.2 (gapAfter_pos m)) halvesInOne_pos

theorem size_add_reach (x : Binary64) :
    x.size + reach x.magnitude = halfway x.magnitude / halvesInOne := by
  rw [size_eq, reach, ← add_div, halfway, ← Nat.cast_add]

theorem size_sub_reach_le (x : Binary64) :
    x.size - reach x.magnitude ≤ halfwayBefore x.magnitude / halvesInOne := by
  rw [size_eq, reach, sub_le_iff_le_add, ← add_div, ← Nat.cast_add]
  exact div_le_div_of_nonneg_right (Nat.cast_le.2 (two_mul_unitsOf_le _)) halvesInOne_pos.le

/-- A number's span has everything within its reach above. -/
theorem mem_span_of_lt_reach {x : Binary64} {v : ℚ} (hx : 0 < x.magnitude) (hlow : x.size ≤ v)
    (hhigh : v < x.size + reach x.magnitude) : v ∈ span x.magnitude := by
  have hbefore : halfwayBefore x.magnitude / halvesInOne < x.size := by
    rw [size_eq]
    exact div_lt_div_of_pos_right (Nat.cast_lt.2 (halfwayBefore_lt hx)) halvesInOne_pos
  rw [size_add_reach] at hhigh
  exact mem_span_iff.2
    ⟨⟨(hbefore.trans_le hlow).le, hhigh.le⟩, fun _ => ⟨(hbefore.trans_le hlow).ne, hhigh.ne⟩⟩

theorem size_mem_span {x : Binary64} (hx : 0 < x.magnitude) : x.size ∈ span x.magnitude :=
  mem_span_of_lt_reach hx le_rfl (lt_add_of_pos_right _ (reach_pos _))

theorem abs_sub_size_le {x : Binary64} {v : ℚ} (hv : v ∈ span x.magnitude) :
    |v - x.size| ≤ reach x.magnitude := by
  obtain ⟨hlow, hhigh⟩ := (mem_span_iff.1 hv).1
  have hbefore := size_sub_reach_le x
  rw [← size_add_reach] at hhigh
  rw [abs_le]
  constructor <;> linarith

theorem pos_of_mem_span {m : ℕ} {v : ℚ} (hm : 0 < m) (hv : v ∈ span m) : 0 < v := by
  obtain ⟨k, rfl⟩ := Nat.exists_eq_add_one.2 hm
  have hhalf : 0 < halfway k := Nat.add_pos_right _ (gapAfter_pos k)
  exact (div_pos (Nat.cast_pos.2 hhalf) halvesInOne_pos).trans_le (mem_span_iff.1 hv).1.1

theorem cast_unitsOf_mul (k e : ℕ) :
    (unitsOf ((k + e + 1) * exponentUnit) : ℚ) = 2 ^ (52 + e) * 2 ^ k := by
  have hunits : unitsOf ((k + e + 1) * exponentUnit) = exponentUnit * 2 ^ (k + e) := by
    rw [Nat.succ_mul]
    exact unitsOf_place (.inr le_rfl) (by decide)
  have hunit : (exponentUnit : ℚ) = 2 ^ 52 := by norm_num [exponentUnit]
  rw [hunits, Nat.cast_mul, hunit, Nat.cast_pow, Nat.cast_two]
  ring

/-- No span of a finite number reaches above `2 ^ 1024`. -/
theorem le_of_mem_span {m : ℕ} {v : ℚ} (hm : m < infiniteMagnitude) (hv : v ∈ span m) :
    v ≤ 2 ^ 1024 := by
  have hhalf : halfway m ≤ 2 * unitsOf infiniteMagnitude := by
    have hle : unitsOf (m + 1) ≤ unitsOf infiniteMagnitude := unitsOf_strictMono.monotone hm
    have h := halfway_add_gapAfter m
    omega
  have hcast : ((2 * unitsOf infiniteMagnitude : ℕ) : ℚ) = 2 ^ 1024 * halvesInOne := by
    have hunits : (unitsOf infiniteMagnitude : ℚ) = 2 ^ 1024 * 2 ^ 1074 := cast_unitsOf_mul 1074 972
    rw [halvesInOne, Nat.cast_mul, hunits, Nat.cast_two, mul_left_comm]
  calc v ≤ halfway m / halvesInOne := (mem_span_iff.1 hv).1.2
    _ ≤ 2 ^ 1024 := by
      rw [div_le_iff₀ halvesInOne_pos, ← hcast]
      exact Nat.cast_le.2 hhalf

end Binary64

/-! ## Decimals as quotients -/

/-- What a decimal is worth. -/
def Decimal.value (d : Decimal) : ℚ := d.digits * 10 ^ d.exponent

/-- Whether a decimal is nearer to a number's size than another, or as near and not smaller. -/
def Decimal.PreferredTo (x : Binary64) (d d' : Decimal) : Prop :=
  |d.value - x.size| < |d'.value - x.size| ∨
    |d.value - x.size| = |d'.value - x.size| ∧ d'.value ≤ d.value

namespace Decimal

variable {x : Binary64} {d d' d'' : Decimal}

theorem value_mk (n : ℕ) (e : ℤ) : value ⟨n, e⟩ = n * 10 ^ e := rfl

theorem value_mono {m n : ℕ} (e : ℤ) (h : m ≤ n) : value ⟨m, e⟩ ≤ value ⟨n, e⟩ :=
  mul_le_mul_of_nonneg_right (Nat.cast_le.2 h) (by positivity)

theorem PreferredTo.refl (d : Decimal) : PreferredTo x d d := .inr ⟨rfl, le_rfl⟩

theorem PreferredTo.trans (h : PreferredTo x d d') (h' : PreferredTo x d' d'') :
    PreferredTo x d d'' := by
  rcases h with hlt | ⟨heq, hle⟩
  · rcases h' with hlt' | ⟨heq', -⟩
    · exact .inl (hlt.trans hlt')
    · exact .inl (heq' ▸ hlt)
  · rcases h' with hlt' | ⟨heq', hle'⟩
    · exact .inl (heq ▸ hlt')
    · exact .inr ⟨heq.trans heq', hle'.trans hle⟩

theorem preferredTo_of_le (hle : d'.value ≤ d.value) (hd : d.value ≤ x.size) :
    PreferredTo x d d' := by
  rw [PreferredTo, abs_of_nonpos (sub_nonpos.2 hd), abs_of_nonpos (sub_nonpos.2 (hle.trans hd))]
  rcases hle.lt_or_eq with hlt | heq
  · left
    linarith
  · exact .inr ⟨by rw [heq], hle⟩

theorem preferredTo_of_ge (hle : d.value ≤ d'.value) (hd : x.size ≤ d.value) :
    PreferredTo x d d' := by
  rw [PreferredTo, abs_of_nonneg (sub_nonneg.2 hd), abs_of_nonneg (sub_nonneg.2 (hd.trans hle))]
  rcases hle.lt_or_eq with hlt | heq
  · left
    linarith
  · exact .inr ⟨by rw [heq], heq.ge⟩

end Decimal

namespace ReadingInterval

open Binary64

variable {x : Binary64}

theorem zpow_eq_div {b : ℕ} (hb : b ≠ 0) (z : ℤ) :
    (b : ℚ) ^ z = (Nat.pow b z.toNat : ℕ) / (Nat.pow b (-z).toNat : ℕ) := by
  rw [cast_pow, cast_pow, ← zpow_natCast, ← zpow_natCast, ← zpow_sub₀ (Nat.cast_ne_zero.2 hb)]
  congr 1
  omega

theorem unitDen_pos (i : ReadingInterval) (e : ℤ) : 0 < i.unitDen e :=
  Nat.mul_pos (Nat.pow_pos (by decide)) (Nat.pow_pos (by decide))

theorem unitNum_div_unitDen (i : ReadingInterval) (e : ℤ) :
    (i.unitNum e / i.unitDen e : ℚ) = 2 ^ i.unit / 10 ^ e := by
  have htwo := zpow_eq_div (b := 2) (by decide) i.unit
  have hten := zpow_eq_div (b := 10) (by decide) e
  rw [Nat.cast_ofNat] at htwo hten
  rw [htwo, hten, div_div_div_eq, unitNum, unitDen, Nat.cast_mul, Nat.cast_mul]

/-- Multiples of the unit of an interval against multiples of a power of ten. -/
theorem mul_unitNum_le_iff (i : ReadingInterval) (n k : ℕ) (e : ℤ) :
    n * i.unitNum e ≤ k * i.unitDen e ↔ (n * 2 ^ i.unit : ℚ) ≤ k * 10 ^ e := by
  have hden : (0 : ℚ) < i.unitDen e := Nat.cast_pos.2 (i.unitDen_pos e)
  have hten : (0 : ℚ) < 10 ^ e := by positivity
  rw [← div_le_iff₀ hten, mul_div_assoc, ← unitNum_div_unitDen, ← mul_div_assoc, div_le_iff₀ hden]
  norm_cast

theorem le_mul_unitNum_iff (i : ReadingInterval) (n k : ℕ) (e : ℤ) :
    k * i.unitDen e ≤ n * i.unitNum e ↔ (k * 10 ^ e : ℚ) ≤ n * 2 ^ i.unit := by
  have hden : (0 : ℚ) < i.unitDen e := Nat.cast_pos.2 (i.unitDen_pos e)
  have hten : (0 : ℚ) < 10 ^ e := by positivity
  rw [← le_div_iff₀ hten, mul_div_assoc, ← unitNum_div_unitDen, ← mul_div_assoc, le_div_iff₀ hden]
  norm_cast

/-! ## The interval is the span -/

theorem two_zpow_unit (x : Binary64) :
    (2 : ℚ) ^ (ofSize x).unit = gapAfter x.magnitude / (2 * halvesInOne) := by
  have hunit : (ofSize x).unit = x.scale - (2 : ℕ) := rfl
  rw [hunit, zpow_sub₀ two_ne_zero, two_zpow_scale, zpow_natCast]
  ring

theorem centre_ofSize (x : Binary64) : ((ofSize x).centre * 2 ^ (ofSize x).unit : ℚ) = x.size := by
  have hcentre : (ofSize x).centre = 4 * x.significand := rfl
  rw [hcentre, two_zpow_unit, size_eq, unitsOf_magnitude]
  push_cast
  ring

theorem high_ofSize (x : Binary64) :
    ((ofSize x).high * 2 ^ (ofSize x).unit : ℚ) = halfway x.magnitude / halvesInOne := by
  have hhigh : (ofSize x).high = 4 * x.significand + 2 := rfl
  rw [hhigh, two_zpow_unit, halfway, unitsOf_magnitude]
  push_cast
  ring

/-- The gap below a number is half the gap above if the number is the least with its exponent,
unless that is the smallest. -/
theorem gapAfter_succ (k : ℕ) : gapAfter (k + 1) =
    if (k + 1) % exponentUnit = 0 ∧ 1 < (k + 1) / exponentUnit then 2 * gapAfter k
    else gapAfter k := by
  simp only [gapAfter]
  split
  · next h =>
    rw [← Nat.pow_succ']
    congr 1
    simp only [exponentUnit] at *
    omega
  · next h =>
    congr 1
    simp only [exponentUnit] at *
    omega

theorem low_mul_gapAfter (x : Binary64) :
    (ofSize x).low * gapAfter x.magnitude = 2 * halfwayBefore x.magnitude := by
  have hlow : (ofSize x).low = 4 * x.significand -
      if x.magnitude % exponentUnit = 0 ∧ 1 < x.magnitude / exponentUnit then 1 else 2 := rfl
  have hunits := unitsOf_magnitude x
  have hfour : 4 * x.significand * gapAfter x.magnitude =
      4 * (x.significand * gapAfter x.magnitude) := Nat.mul_assoc ..
  rw [hlow, Nat.sub_mul, hfour, ← hunits]
  cases x.magnitude with
  | zero => simp [unitsOf, halfwayBefore]
  | succ k =>
    have hhalf := halfway_add_gapAfter k
    have hgap := gapAfter_succ k
    simp only [halfwayBefore]
    split at hgap
    · next h =>
      rw [if_pos h]
      omega
    · next h =>
      rw [if_neg h]
      omega

theorem low_ofSize (x : Binary64) :
    ((ofSize x).low * 2 ^ (ofSize x).unit : ℚ) = halfwayBefore x.magnitude / halvesInOne := by
  have hlow : ((ofSize x).low * gapAfter x.magnitude : ℚ) = 2 * halfwayBefore x.magnitude := by
    exact_mod_cast low_mul_gapAfter x
  rw [two_zpow_unit, ← mul_div_assoc, hlow, mul_div_mul_left _ _ two_ne_zero]

theorem closed_ofSize (x : Binary64) : (ofSize x).closed = decide (x.magnitude % 2 = 0) := by
  have hclosed : (ofSize x).closed = decide (x.significand % 2 = 0) := rfl
  have hm := magnitude_eq x
  rw [hclosed, decide_eq_decide, significand]
  simp only [exponentUnit] at *
  split <;> omega

/-- The decimals in a number's interval are those in its span. -/
theorem contains_iff (d : Decimal) : (ofSize x).contains d ↔ d.value ∈ span x.magnitude := by
  rw [contains, span, closed_ofSize, ← low_ofSize, ← high_ofSize, Decimal.value]
  by_cases hm : x.magnitude % 2 = 0
  · simp [hm, mul_unitNum_le_iff, le_mul_unitNum_iff]
  · simp [hm, ← not_le, mul_unitNum_le_iff, le_mul_unitNum_iff]

theorem not_mem_span {d : Decimal} (h : (ofSize x).contains d = false) :
    d.value ∉ span x.magnitude := fun hd =>
  Bool.false_ne_true (h.symm.trans ((contains_iff d).2 hd))

/-! ## The nearest multiple of a power of ten -/

/-- How many times `10 ^ e` goes into the size of a number. -/
def quotient (x : Binary64) (e : ℤ) : ℕ :=
  (ofSize x).centre * (ofSize x).unitNum e / (ofSize x).unitDen e

theorem quotient_le_size (x : Binary64) (e : ℤ) : Decimal.value ⟨quotient x e, e⟩ ≤ x.size := by
  rw [Decimal.value_mk, ← centre_ofSize, ← le_mul_unitNum_iff]
  exact Nat.div_mul_le_self ..

theorem size_lt_quotient_succ (x : Binary64) (e : ℤ) :
    x.size < Decimal.value ⟨quotient x e + 1, e⟩ := by
  rw [Decimal.value_mk, ← centre_ofSize, ← not_le, ← le_mul_unitNum_iff, not_le]
  exact (Nat.div_lt_iff_lt_mul (unitDen_pos ..)).1 (Nat.lt_succ_self _)

/-- The multiple below is nearer just if the remainder is less than half. -/
theorem two_mul_mod_lt_iff (x : Binary64) (e : ℤ) :
    2 * ((ofSize x).centre * (ofSize x).unitNum e % (ofSize x).unitDen e) < (ofSize x).unitDen e ↔
      2 * x.size < Decimal.value ⟨2 * quotient x e + 1, e⟩ := by
  have hcentre : 2 * x.size = ((2 * (ofSize x).centre : ℕ) : ℚ) * 2 ^ (ofSize x).unit := by
    rw [← centre_ofSize, Nat.cast_mul, Nat.cast_two, mul_assoc]
  rw [hcentre, Decimal.value_mk, ← not_le, ← not_le, ← le_mul_unitNum_iff, not_iff_not, quotient,
    Nat.mul_assoc 2]
  generalize (ofSize x).centre * (ofSize x).unitNum e = num
  generalize (ofSize x).unitDen e = den
  have hdiv := Nat.div_add_mod' num den
  have hodd : (2 * (num / den) + 1) * den = 2 * (num / den * den) + den := by ring
  omega

section

variable {x : Binary64} {e : ℤ} (hx : 0 < x.magnitude) {n : ℕ}
  (hn : Decimal.value ⟨n, e⟩ ∈ span x.magnitude)

include hx hn

/-- Of the multiples that are not above a number, the greatest is in its span if any is. -/
theorem below_of_le_quotient (hle : n ≤ quotient x e) :
    Decimal.value ⟨quotient x e, e⟩ ∈ span x.magnitude ∧
      Decimal.PreferredTo x ⟨quotient x e, e⟩ ⟨n, e⟩ := by
  have hvalue := Decimal.value_mono e hle
  have hsize := quotient_le_size x e
  exact ⟨mem_span_of_le hn (size_mem_span hx) hvalue hsize, Decimal.preferredTo_of_le hvalue hsize⟩

/-- Of those above it, the least is. -/
theorem above_of_quotient_lt (hlt : quotient x e < n) :
    Decimal.value ⟨quotient x e + 1, e⟩ ∈ span x.magnitude ∧
      Decimal.PreferredTo x ⟨quotient x e + 1, e⟩ ⟨n, e⟩ := by
  have hvalue := Decimal.value_mono e (Nat.succ_le_of_lt hlt)
  have hsize := (size_lt_quotient_succ x e).le
  exact ⟨mem_span_of_le (size_mem_span hx) hn hsize hvalue, Decimal.preferredTo_of_ge hvalue hsize⟩

end

/-- Of the two multiples next to a number, the one below is preferred if it is strictly nearer,
and else the one above. -/
theorem nearer_below_iff (x : Binary64) (e : ℤ) :
    2 * ((ofSize x).centre * (ofSize x).unitNum e % (ofSize x).unitDen e) < (ofSize x).unitDen e ↔
      |Decimal.value ⟨quotient x e, e⟩ - x.size| < |Decimal.value ⟨quotient x e + 1, e⟩ - x.size| := by
  have hbelow := quotient_le_size x e
  have habove := size_lt_quotient_succ x e
  rw [two_mul_mod_lt_iff, abs_of_nonpos (sub_nonpos.2 hbelow),
    abs_of_nonneg (sub_nonneg.2 habove.le)]
  simp only [Decimal.value_mk] at *
  push_cast at *
  constructor <;> intro h <;> linarith

theorem above_preferredTo_below {x : Binary64} {e : ℤ}
    (h : ¬|Decimal.value ⟨quotient x e, e⟩ - x.size| <
      |Decimal.value ⟨quotient x e + 1, e⟩ - x.size|) :
    Decimal.PreferredTo x ⟨quotient x e + 1, e⟩ ⟨quotient x e, e⟩ := by
  rcases (not_lt.1 h).lt_or_eq with hlt | heq
  · exact .inl hlt
  · exact .inr ⟨heq, Decimal.value_mono e (Nat.le_succ _)⟩

/-- `nearest?` finds nothing just if there is nothing to be found. -/
theorem nearest?_eq_none (hx : 0 < x.magnitude) {e : ℤ} (h : (ofSize x).nearest? e = none) (n : ℕ) :
    Decimal.value ⟨n, e⟩ ∉ span x.magnitude := by
  intro hn
  simp only [nearest?, ← quotient.eq_def] at h
  split at h
  · cases h
  · cases h
  · cases h
  · next hbelow habove =>
    rcases Nat.lt_or_ge (quotient x e) n with hlt | hle
    · exact not_mem_span habove (above_of_quotient_lt hx hn hlt).1
    · exact not_mem_span hbelow (below_of_le_quotient hx hn hle).1

/-- What is preferred to the two multiples next to a number is preferred to all that are in its
span. -/
theorem preferredTo_of_next {e : ℤ} {d : Decimal} (hx : 0 < x.magnitude)
    (hbelow : Decimal.value ⟨quotient x e, e⟩ ∈ span x.magnitude →
      d.PreferredTo x ⟨quotient x e, e⟩)
    (habove : Decimal.value ⟨quotient x e + 1, e⟩ ∈ span x.magnitude →
      d.PreferredTo x ⟨quotient x e + 1, e⟩)
    {n : ℕ} (hn : Decimal.value ⟨n, e⟩ ∈ span x.magnitude) : d.PreferredTo x ⟨n, e⟩ := by
  rcases Nat.lt_or_ge (quotient x e) n with hlt | hle
  · obtain ⟨hspan, hpreferred⟩ := above_of_quotient_lt hx hn hlt
    exact (habove hspan).trans hpreferred
  · obtain ⟨hspan, hpreferred⟩ := below_of_le_quotient hx hn hle
    exact (hbelow hspan).trans hpreferred

/-- What it finds is in the span, and is preferred to all other multiples there. -/
theorem nearest?_eq_some (hx : 0 < x.magnitude) {e : ℤ} {d : Decimal}
    (h : (ofSize x).nearest? e = some d) :
    d.exponent = e ∧ d.value ∈ span x.magnitude ∧
      ∀ n : ℕ, Decimal.value ⟨n, e⟩ ∈ span x.magnitude → d.PreferredTo x ⟨n, e⟩ := by
  simp only [nearest?, ← quotient.eq_def, nearer_below_iff] at h
  split at h
  · next hbelow habove =>
    by_cases hnear : |Decimal.value ⟨quotient x e, e⟩ - x.size| <
        |Decimal.value ⟨quotient x e + 1, e⟩ - x.size|
    · rw [if_pos hnear] at h
      cases h
      exact ⟨rfl, (contains_iff _).1 hbelow,
        fun _ => preferredTo_of_next hx (fun _ => .refl _) (fun _ => .inl hnear)⟩
    · rw [if_neg hnear] at h
      cases h
      exact ⟨rfl, (contains_iff _).1 habove,
        fun _ => preferredTo_of_next hx (fun _ => above_preferredTo_below hnear) (fun _ => .refl _)⟩
  · next hbelow habove =>
    cases h
    exact ⟨rfl, (contains_iff _).1 hbelow,
      fun _ => preferredTo_of_next hx (fun _ => .refl _) (fun h => absurd h (not_mem_span habove))⟩
  · next hbelow habove =>
    cases h
    exact ⟨rfl, (contains_iff _).1 habove,
      fun _ => preferredTo_of_next hx (fun h => absurd h (not_mem_span hbelow)) (fun _ => .refl _)⟩
  · cases h

end ReadingInterval

end Targeting

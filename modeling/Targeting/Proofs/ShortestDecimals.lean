import Targeting.Decimal.Layout
import Targeting.Proofs.ReadingIntervals
/-!
# Shortest decimals

Of the decimals that read back as a number, `Decimal.shortest` is one with the fewest digits,
and of those the nearest to the number, the larger if two are equally near
(`isShortest_shortest`). No other decimal is (`IsShortest.unique`).

The search goes from the coarsest power of ten down and stops at the first with a multiple in
the number's span, so no multiple of a coarser power is there. A decimal with a finer exponent
and no more digits has a power of ten between it and the multiple that was found; that leaves
only decimals of one digit, and there the multiple that was found is the nearer.
-/

namespace Targeting

open Binary64

namespace Decimal

/-! ## Length and size -/

/-- The number of digits of a decimal. -/
def length (d : Decimal) : ℕ := (Layout.digitsOf d.digits).length

/-- The power of ten that a decimal is less than, by its digits and its exponent: where the point
stands if it is counted from the first digit. -/
def point (d : Decimal) : ℤ := d.length + d.exponent

variable {x : Binary64} {d d' : Decimal}

theorem length_pos (d : Decimal) : 0 < d.length := Nat.length_toDigits_pos

theorem digits_lt (d : Decimal) : d.digits < 10 ^ d.length :=
  (Nat.length_toDigits_le_iff (by decide) d.length_pos).1 le_rfl

theorem pow_le_digits (hd : 0 < d.digits) : 10 ^ (d.length - 1) ≤ d.digits := by
  by_cases hone : d.length = 1
  · rw [hone]
    exact hd
  · have hpos := d.length_pos
    have hnot := mt (Nat.length_toDigits_le_iff (b := 10) (n := d.digits) (k := d.length - 1)
      (by decide) (by omega)).2
    refine Nat.le_of_not_lt (hnot ?_)
    change ¬d.length ≤ d.length - 1
    omega

theorem value_lt (d : Decimal) : d.value < 10 ^ d.point := by
  have hlt : (d.digits : ℚ) < 10 ^ d.length := by exact_mod_cast d.digits_lt
  rw [value, point, zpow_add₀ (by norm_num), zpow_natCast]
  exact mul_lt_mul_of_pos_right hlt (by positivity)

theorem le_value (hd : 0 < d.digits) : (10 : ℚ) ^ (d.point - 1) ≤ d.value := by
  have hle : (10 : ℚ) ^ (d.length - 1) ≤ d.digits := by exact_mod_cast pow_le_digits hd
  have hpos := d.length_pos
  have hpoint : d.point - 1 = ((d.length - 1 : ℕ) : ℤ) + d.exponent := by
    rw [point]
    omega
  rw [value, hpoint, zpow_add₀ (by norm_num), zpow_natCast]
  exact mul_le_mul_of_nonneg_right hle (by positivity)

/-- A decimal as a multiple of a finer power of ten. -/
theorem value_eq_of_le {e : ℤ} (h : e ≤ d.exponent) :
    d.value = value ⟨d.digits * 10 ^ (d.exponent - e).toNat, e⟩ := by
  have hexp : d.exponent = ((d.exponent - e).toNat : ℤ) + e := by omega
  rw [value_mk, value]
  nth_rewrite 1 [hexp]
  rw [zpow_add₀ (by norm_num), zpow_natCast]
  push_cast
  ring

theorem value_one (e : ℤ) : value ⟨1, e⟩ = 10 ^ e := by
  rw [value_mk, Nat.cast_one, one_mul]

/-! ## Reading back -/

/-- Whether a decimal, with the sign of a number, is rounded to that number. -/
def ReadsAs (d : Decimal) (x : Binary64) : Prop :=
  Binary64.ofRatio x.isNegative (d.digits * 10 ^ d.exponent.toNat) (10 ^ (-d.exponent).toNat) = x

theorem readsAs_iff (hx : x.isFinite) : d.ReadsAs x ↔ d.value ∈ span x.magnitude := by
  have hten := ReadingInterval.zpow_eq_div (b := 10) (by decide) d.exponent
  rw [Nat.cast_ofNat] at hten
  rw [ReadsAs, ofRatio_eq_iff hx (Nat.pow_pos (by decide)), value, hten, Nat.cast_mul, mul_div_assoc]
  rfl

/-- Whether a decimal reads back as a number and is the best that does: none has fewer digits,
and none with as many is preferred to it. -/
structure IsShortest (x : Binary64) (d : Decimal) : Prop where
  reads : d.ReadsAs x
  fewest : ∀ d' : Decimal, d'.ReadsAs x → d.length ≤ d'.length
  preferred : ∀ d' : Decimal, d'.ReadsAs x → d'.length = d.length → d.PreferredTo x d'

/-! ## The search -/

theorem findSome?_range_eq_some {β : Type} {f : ℕ → Option β} {b : β} {n : ℕ}
    (h : (List.range n).findSome? f = some b) :
    ∃ i < n, f i = some b ∧ ∀ j < i, f j = none := by
  induction n with
  | zero => cases h
  | succ n ih =>
    rw [List.range_succ, List.findSome?_append] at h
    cases hfirst : (List.range n).findSome? f with
    | some c =>
      rw [hfirst] at h
      obtain ⟨i, hi, hfound⟩ := ih (hfirst.trans h)
      exact ⟨i, by omega, hfound⟩
    | none =>
      rw [hfirst] at h
      rw [Option.none_or, List.findSome?_singleton] at h
      refine ⟨n, by omega, h, fun j hj => ?_⟩
      exact List.findSome?_eq_none_iff.1 hfirst j (List.mem_range.2 hj)

/-! The comparisons of powers that the bounds of the search rest on. -/

theorem cast_mul_pow_lt {a b c d m n : ℕ} (h : a * Nat.pow b m < c * Nat.pow d n) :
    (a * b ^ m : ℚ) < c * d ^ n := by
  rw [← cast_pow, ← cast_pow]
  exact_mod_cast h

theorem two_mul_ten_pow_lt : (2 * 10 ^ 323 : ℚ) < 2 ^ 1074 := by
  have h := @cast_mul_pow_lt 2 10 1 2 323 1074 (by decide +kernel)
  simpa only [Nat.cast_ofNat, Nat.cast_one, one_mul] using h

theorem mul_two_pow_lt : (19 * 2 ^ 1074 : ℚ) < 4 * 10 ^ 324 := by
  have h := @cast_mul_pow_lt 19 2 4 10 1074 324 (by decide +kernel)
  simpa only [Nat.cast_ofNat] using h

theorem two_pow_lt_ten_pow : (2 ^ 1024 : ℚ) < 10 ^ 309 := by
  have h := @cast_mul_pow_lt 1 2 1 10 1024 309 (by decide +kernel)
  simpa only [Nat.cast_ofNat, Nat.cast_one, one_mul] using h

/-- The least reach of all is small beside this power of ten. -/
theorem four_div_halvesInOne_lt : 4 * (1 / halvesInOne) < (10 : ℚ) ^ (-323 : ℤ) := by
  have hpow : (10 : ℚ) ^ (-323 : ℤ) = 1 / 10 ^ 323 := by
    rw [zpow_neg, one_div]
    exact congrArg _ (zpow_natCast 10 323)
  have hpos : (0 : ℚ) < 10 ^ 323 := by positivity
  have hlt := two_mul_ten_pow_lt
  rw [hpow, mul_one_div, div_lt_div_iff₀ halvesInOne_pos hpos, halvesInOne]
  generalize (10 : ℚ) ^ 323 = ten at *
  generalize (2 : ℚ) ^ 1074 = two at *
  linarith

/-- It is large beside the next. -/
theorem ten_zpow_lt_div_halvesInOne : 19 * (10 : ℚ) ^ (-324 : ℤ) < 8 * (1 / halvesInOne) := by
  have hpow : (10 : ℚ) ^ (-324 : ℤ) = 1 / 10 ^ 324 := by
    rw [zpow_neg, one_div]
    exact congrArg _ (zpow_natCast 10 324)
  have hpos : (0 : ℚ) < 10 ^ 324 := by positivity
  have hlt := mul_two_pow_lt
  rw [hpow, mul_one_div, mul_one_div, div_lt_div_iff₀ hpos halvesInOne_pos, halvesInOne]
  generalize (10 : ℚ) ^ 324 = ten at *
  generalize (2 : ℚ) ^ 1074 = two at *
  linarith

theorem one_div_le_reach (m : ℕ) : 1 / halvesInOne ≤ reach m :=
  div_le_div_of_nonneg_right (Nat.one_le_cast.2 (gapAfter_pos m)) halvesInOne_pos.le

/-- The smallest power of ten that is tried has a multiple in every span. -/
theorem nearest?_finest (hx : 0 < x.magnitude) :
    (ReadingInterval.ofSize x).nearest? (-324) ≠ none := by
  intro hnone
  refine ReadingInterval.nearest?_eq_none hx hnone (ReadingInterval.quotient x (-324) + 1) ?_
  refine mem_span_of_lt_reach hx (ReadingInterval.size_lt_quotient_succ x _).le ?_
  have hbelow := ReadingInterval.quotient_le_size x (-324)
  have hstep := ten_zpow_lt_div_halvesInOne
  have hreach := one_div_le_reach x.magnitude
  have hpos : (0 : ℚ) < 10 ^ (-324 : ℤ) := by positivity
  rw [value_mk] at hbelow ⊢
  rw [Nat.cast_add_one, add_one_mul]
  generalize (10 : ℚ) ^ (-324 : ℤ) = ten at *
  linarith

/-- No multiple of a power of ten beyond the coarsest that is tried is in a span. -/
theorem not_mem_span_too_coarse (hx : 0 < x.magnitude) (hfin : x.isFinite) (n : ℕ) :
    value ⟨n, 309⟩ ∉ span x.magnitude := by
  intro hn
  have hn0 : n ≠ 0 := by
    rintro rfl
    simpa [value_mk] using pos_of_mem_span hx hn
  have hle := le_of_mem_span (by simpa [isFinite] using hfin) hn
  have hpow : (10 : ℚ) ^ (309 : ℤ) = 10 ^ 309 := zpow_natCast 10 309
  have hmul : (10 : ℚ) ^ 309 ≤ n * 10 ^ 309 :=
    le_mul_of_one_le_left (by positivity) (Nat.one_le_cast.2 (Nat.pos_of_ne_zero hn0))
  rw [value_mk, hpow] at hle
  exact absurd (hmul.trans hle) (not_le.2 two_pow_lt_ten_pow)

/-- The decimal that is found is in the span and is preferred to all others with its exponent, and
no multiple of the next coarser power of ten is in the span. -/
theorem shortest_coarsest (hx : 0 < x.magnitude) (hfin : x.isFinite) :
    (shortest x).value ∈ span x.magnitude ∧
      (∀ n : ℕ, value ⟨n, (shortest x).exponent⟩ ∈ span x.magnitude →
        (shortest x).PreferredTo x ⟨n, (shortest x).exponent⟩) ∧
      ∀ n : ℕ, value ⟨n, (shortest x).exponent + 1⟩ ∉ span x.magnitude := by
  have hzero : x.isZero = false := by simpa [isZero] using hx.ne'
  have hfound : (exponents.findSome? (ReadingInterval.ofSize x).nearest?).isSome := by
    rw [Option.isSome_iff_ne_none]
    intro hnone
    have hlast : (-324 : ℤ) ∈ exponents := List.mem_map.2 ⟨632, List.mem_range.2 (by decide), rfl⟩
    exact nearest?_finest hx (List.findSome?_eq_none_iff.1 hnone (-324) hlast)
  obtain ⟨d, hd⟩ := Option.isSome_iff_exists.1 hfound
  have hshortest : shortest x = d := by simp [shortest, hzero, hd]
  rw [exponents, List.findSome?_map] at hd
  obtain ⟨i, -, hi, hcoarser⟩ := findSome?_range_eq_some hd
  obtain ⟨hexp, hspan, hpreferred⟩ := ReadingInterval.nearest?_eq_some hx hi
  rw [hshortest, hexp]
  refine ⟨hspan, hpreferred, fun n => ?_⟩
  cases i with
  | zero => exact not_mem_span_too_coarse hx hfin n
  | succ j =>
    have hj := hcoarser j (Nat.lt_succ_self j)
    have hnext : (308 : ℤ) - (j + 1 : ℕ) + 1 = 308 - (j : ℕ) := by omega
    rw [hnext]
    exact ReadingInterval.nearest?_eq_none hx hj n

/-! ## Nothing shorter or nearer -/

theorem digits_pos_of_mem_span (hx : 0 < x.magnitude) (hd : d.value ∈ span x.magnitude) :
    0 < d.digits := by
  refine Nat.pos_of_ne_zero fun h => ?_
  have hpos := pos_of_mem_span hx hd
  rw [value, h, Nat.cast_zero, zero_mul] at hpos
  exact lt_irrefl _ hpos

/-- Between two decimals in a span of which one is less than the leading power of ten of the
other, that power is in the span too. -/
theorem ten_zpow_mem_span (hx : 0 < x.magnitude) (hd : d.value ∈ span x.magnitude)
    (hd' : d'.value ∈ span x.magnitude) (h : d'.point ≤ d.point - 1) :
    (10 : ℚ) ^ (d.point - 1) ∈ span x.magnitude := by
  have hlow : d'.value ≤ 10 ^ (d.point - 1) :=
    d'.value_lt.le.trans (zpow_le_zpow_right₀ (by norm_num) h)
  exact mem_span_of_le hd' hd hlow (le_value (digits_pos_of_mem_span hx hd))

section

variable (hx : 0 < x.magnitude) (hfin : x.isFinite)

include hx hfin

theorem exponent_le_of_mem_span (hd : d.value ∈ span x.magnitude) :
    d.exponent ≤ (shortest x).exponent := by
  refine not_lt.1 fun h => ?_
  rw [value_eq_of_le (Int.add_one_le_of_lt h)] at hd
  exact (shortest_coarsest hx hfin).2.2 _ hd

theorem le_of_ten_zpow_mem_span {j : ℤ} (h : (10 : ℚ) ^ j ∈ span x.magnitude) :
    j ≤ (shortest x).exponent := by
  rw [← value_one] at h
  exact exponent_le_of_mem_span hx hfin h

/-- No decimal in the span has fewer digits. -/
theorem length_shortest_le (hd : d.value ∈ span x.magnitude) :
    (shortest x).length ≤ d.length := by
  refine not_lt.1 fun h => ?_
  have hexp := exponent_le_of_mem_span hx hfin hd
  have hpos := d.length_pos
  have hten := ten_zpow_mem_span hx (shortest_coarsest hx hfin).1 hd (by rw [point, point]; omega)
  have hle := le_of_ten_zpow_mem_span hx hfin hten
  rw [point] at hle
  omega

end

theorem size_eq_mul_reach (x : Binary64) : x.size = 2 * x.significand * reach x.magnitude := by
  rw [size_eq, reach, unitsOf_magnitude]
  push_cast
  ring

theorem reach_eq_of_significand_lt (h : x.significand < exponentUnit) :
    reach x.magnitude = 1 / halvesInOne := by
  have hfield : x.magnitude / exponentUnit = 0 := by
    by_contra hne
    rw [significand, exponentField, if_neg hne] at h
    omega
  rw [reach, gapAfter, hfield, Nat.zero_sub, Nat.pow_zero, Nat.cast_one]

theorem significand_pos (hx : 0 < x.magnitude) : 0 < x.significand := by
  have hpos := (units_pos_iff (x := x)).2 hx
  rw [units] at hpos
  exact Nat.pos_of_mul_pos_right hpos

theorem ten_zpow_eq (e : ℤ) : (10 : ℚ) ^ e = 10 * 10 ^ (e - 1) := by
  rw [← zpow_one_add₀ (by norm_num)]
  congr 1
  omega

/-- If a power of ten lies just above a number of the smallest unit, that number is at least two
units: no power of ten lies just above one. -/
theorem two_le_significand {e : ℤ} (hx : 0 < x.magnitude)
    (hr : reach x.magnitude = 1 / halvesInOne) (hlow : x.size < 10 ^ e)
    (hhigh : (10 : ℚ) ^ e ≤ x.size + reach x.magnitude) : 2 ≤ x.significand := by
  by_contra h
  have hone : x.significand = 1 := by
    have hpos := significand_pos hx
    omega
  have hsize := size_eq_mul_reach x
  rw [hone, Nat.cast_one, mul_one] at hsize
  rw [hr] at hsize hhigh
  have hpos : 0 < 1 / halvesInOne := hr ▸ reach_pos x.magnitude
  rcases Int.lt_or_le e (-323) with hsmall | hlarge
  · have hpower : (10 : ℚ) ^ e ≤ 10 ^ (-324 : ℤ) := zpow_le_zpow_right₀ (by norm_num) (by omega)
    have hbound := ten_zpow_lt_div_halvesInOne
    generalize (10 : ℚ) ^ (-324 : ℤ) = ten at *
    linarith
  · have hpower : (10 : ℚ) ^ (-323 : ℤ) ≤ 10 ^ e := zpow_le_zpow_right₀ (by norm_num) hlarge
    have hbound := four_div_halvesInOne_lt
    generalize (10 : ℚ) ^ (-323 : ℤ) = ten at *
    linarith

/-- If a power of ten and at most nine times the next lower one are in a span, the power is the
nearer of the two. Both are there only for the smallest numbers. -/
theorem nearer_of_size_lt {e : ℤ} {v : ℚ} (hx : 0 < x.magnitude)
    (hten : (10 : ℚ) ^ e ∈ span x.magnitude) (hv : v ∈ span x.magnitude)
    (hnine : v ≤ 9 * 10 ^ (e - 1)) (hlt : x.size < 10 ^ e) :
    |(10 : ℚ) ^ e - x.size| < |v - x.size| := by
  have hpow := ten_zpow_eq e
  have hsize := size_eq_mul_reach x
  have htop := (abs_le.1 (abs_sub_size_le hten)).2
  have hbottom := (abs_le.1 (abs_sub_size_le hv)).1
  have hpos := reach_pos x.magnitude
  -- the power is within reach of the number, so the significand has one digit
  have hsig : x.significand < 10 := by
    have h : (x.significand * reach x.magnitude : ℚ) < 10 * reach x.magnitude := by linarith
    exact_mod_cast lt_of_mul_lt_mul_right h hpos.le
  have hr := reach_eq_of_significand_lt (hsig.trans (by decide))
  have hdouble : 4 * (1 / halvesInOne) ≤ x.size := by
    have htwo : (2 : ℚ) ≤ x.significand := by
      exact_mod_cast two_le_significand hx hr hlt (by linarith)
    rw [hsize, hr]
    rw [hr] at hpos
    have h := mul_le_mul_of_nonneg_right htwo hpos.le
    linarith
  rw [hr] at htop hbottom
  have hexp : e - 1 ≤ -324 := by
    by_contra h
    have hle : (10 : ℚ) ^ (-323 : ℤ) ≤ 10 ^ (e - 1) :=
      zpow_le_zpow_right₀ (by norm_num) (by omega)
    have hlow := four_div_halvesInOne_lt
    rw [hr] at hpos
    generalize (10 : ℚ) ^ (-323 : ℤ) = ten at *
    linarith
  have hnear : 19 * (10 : ℚ) ^ (e - 1) < 2 * x.size := by
    have hle : (10 : ℚ) ^ (e - 1) ≤ 10 ^ (-324 : ℤ) := zpow_le_zpow_right₀ (by norm_num) hexp
    have hhigh := ten_zpow_lt_div_halvesInOne
    generalize (10 : ℚ) ^ (-324 : ℤ) = ten at *
    linarith
  calc |(10 : ℚ) ^ e - x.size| = 10 ^ e - x.size := abs_of_pos (sub_pos.2 hlt)
    _ < x.size - v := by linarith
    _ ≤ |v - x.size| := by
      rw [abs_sub_comm]
      exact le_abs_self _

/-- What has one digit and a finer exponent is not preferred to a power of ten. -/
theorem one_preferredTo {e : ℤ} (hx : 0 < x.magnitude) (hone : value ⟨1, e⟩ ∈ span x.magnitude)
    (hd : d.value ∈ span x.magnitude) (hlength : d.length = 1) (he : d.exponent < e) :
    PreferredTo x ⟨1, e⟩ d := by
  have hdigits : (d.digits : ℚ) ≤ 9 := by
    have h := d.digits_lt
    rw [hlength] at h
    exact_mod_cast Nat.le_of_lt_succ h
  have hpower : (10 : ℚ) ^ d.exponent ≤ 10 ^ (e - 1) :=
    zpow_le_zpow_right₀ (by norm_num) (by omega)
  have hnine : d.value ≤ 9 * 10 ^ (e - 1) :=
    mul_le_mul hdigits hpower (by positivity) (by norm_num)
  rcases le_or_gt ((10 : ℚ) ^ e) x.size with hle | hlt
  · have hvalue : d.value ≤ value ⟨1, e⟩ := by
      have hpow := ten_zpow_eq e
      have hpos : (0 : ℚ) < 10 ^ (e - 1) := by positivity
      rw [value_one]
      linarith
    exact preferredTo_of_le hvalue (by rwa [value_one])
  · rw [PreferredTo, value_one]
    rw [value_one] at hone
    exact .inl (nearer_of_size_lt hx hone hd hnine hlt)

/-- No decimal in the span with as many digits is preferred. -/
theorem shortest_preferredTo (hx : 0 < x.magnitude) (hfin : x.isFinite)
    (hd : d.value ∈ span x.magnitude) (hlength : d.length = (shortest x).length) :
    (shortest x).PreferredTo x d := by
  obtain ⟨hspan, hpreferred, -⟩ := shortest_coarsest hx hfin
  rcases (exponent_le_of_mem_span hx hfin hd).lt_or_eq with hlt | heq
  · have hten := ten_zpow_mem_span hx hspan hd (by rw [point, point]; omega)
    have hle := le_of_ten_zpow_mem_span hx hfin hten
    have hpos := (shortest x).length_pos
    have hpoint : (shortest x).point - 1 = (shortest x).exponent := by
      rw [point] at *
      omega
    rw [hpoint, ← value_one] at hten
    have hone : d.length = 1 := by
      rw [point] at hle
      omega
    exact (hpreferred 1 hten).trans (one_preferredTo hx hten hd hone hlt)
  · rw [← heq] at hpreferred
    exact hpreferred d.digits hd

/-- The shortest decimal is the shortest. -/
theorem isShortest_shortest (hx : 0 < x.magnitude) (hfin : x.isFinite) :
    IsShortest x (shortest x) where
  reads := (readsAs_iff hfin).2 (shortest_coarsest hx hfin).1
  fewest _ hd := length_shortest_le hx hfin ((readsAs_iff hfin).1 hd)
  preferred _ hd := shortest_preferredTo hx hfin ((readsAs_iff hfin).1 hd)

theorem eq_of_value_eq (hpos : 0 < d.digits) (hlength : d.length = d'.length)
    (hvalue : d.value = d'.value) : d = d' := by
  have hpos' : 0 < d'.digits := by
    have h : 0 < d'.value := hvalue ▸ mul_pos (Nat.cast_pos.2 hpos) (by positivity)
    refine Nat.pos_of_ne_zero fun h0 => ?_
    rw [value, h0, Nat.cast_zero, zero_mul] at h
    exact lt_irrefl _ h
  have hpoint : d.point = d'.point := by
    have h := (le_value hpos).trans_lt (hvalue ▸ d'.value_lt)
    have h' := (le_value hpos').trans_lt (hvalue ▸ d.value_lt)
    rw [zpow_lt_zpow_iff_right₀ (by norm_num)] at h h'
    omega
  have hexponent : d.exponent = d'.exponent := by
    rw [point, point, hlength] at hpoint
    omega
  have hdigits : (d.digits : ℚ) = d'.digits := by
    rw [value, value, hexponent] at hvalue
    exact mul_right_cancel₀ (by positivity) hvalue
  cases d
  cases d'
  simp_all

/-- There is only one. -/
theorem IsShortest.unique (hx : 0 < x.magnitude) (hfin : x.isFinite) (h : IsShortest x d)
    (h' : IsShortest x d') : d = d' := by
  have hlength : d.length = d'.length := le_antisymm (h.fewest d' h'.reads) (h'.fewest d h.reads)
  have hpos := digits_pos_of_mem_span hx ((readsAs_iff hfin).1 h.reads)
  refine eq_of_value_eq hpos hlength ?_
  rcases h.preferred d' h'.reads hlength.symm with hlt | ⟨heq, hle⟩
  · rcases h'.preferred d h.reads hlength with hlt' | ⟨heq', -⟩
    · exact absurd hlt' hlt.not_gt
    · exact absurd heq' hlt.ne'
  · rcases h'.preferred d h.reads hlength with hlt' | ⟨-, hle'⟩
    · exact absurd heq hlt'.ne'
    · exact le_antisymm hle' hle

end Decimal

end Targeting

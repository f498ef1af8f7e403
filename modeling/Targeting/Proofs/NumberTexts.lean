import Targeting.Proofs.WholeNumbers
import Targeting.Value.Text
/-!
# The text of a number

A number is written in one of three ways, and which one is decided by comparing numbers. The
layout is decided by where the point of the shortest decimal stands, and the two agree: a number
is too large to be written out just if the point is after the 21st digit, and too small just if
it is six or more places before the first (`needsExponent_iff`). An integer up to `2 ^ 53 - 1` is
its own shortest decimal, so it is written as an integer is (`toString_exactInt`).
-/

namespace Targeting

open Binary64

variable {x : Binary64}

namespace Binary64

/-! ## Sizes -/

theorem magnitude_abs (x : Binary64) : x.abs.magnitude = x.magnitude :=
  magnitude_ofMagnitude (Nat.mod_lt _ (by decide))

theorem isNaN_abs (x : Binary64) : x.abs.isNaN = x.isNaN := by rw [isNaN, magnitude_abs, isNaN]

theorem order?_abs {y : Binary64} (hx : x.isNaN = false) (hn : y.isNaN = false)
    (hy : y.isNegative = false) :
    x.abs.order? y = some (compare (x.magnitude : ℤ) y.magnitude) := by
  have hnan : x.abs.isNaN = false := x.isNaN_abs.trans hx
  have hneg : x.abs.isNegative = false := isNegative_ofMagnitude (Nat.mod_lt _ (by decide))
  have hrank : x.abs.rank = x.magnitude := by
    rw [rank, magnitude_abs, hneg]
    rfl
  have hranky : y.rank = y.magnitude := by simp [rank, hy]
  simp [Binary64.order?, hnan, hn, hrank, hranky]

theorem any_isGE_order?_abs {y : Binary64} (hx : x.isNaN = false) (hn : y.isNaN = false)
    (hy : y.isNegative = false) :
    (x.abs.order? y).any Ordering.isGE ↔ y.magnitude ≤ x.magnitude := by
  rw [order?_abs hx hn hy, Option.any_some, Std.isGE_compare, Int.ofNat_le]

theorem any_isLT_order?_abs {y : Binary64} (hx : x.isNaN = false) (hn : y.isNaN = false)
    (hy : y.isNegative = false) :
    (x.abs.order? y).any Ordering.isLT ↔ x.magnitude < y.magnitude := by
  rw [order?_abs hx hn hy, Option.any_some, Ordering.isLT_iff_eq_lt, Int.compare_eq_lt, Int.ofNat_lt]

end Binary64

/-! ## The thresholds -/

namespace Decimal

/-- A number is less than the one that a power of ten rounds to just if the power is above all
digits of its shortest decimal. -/
theorem point_shortest_le_iff {y : Binary64} {j : ℤ} (hx : 0 < x.magnitude) (hfin : x.isFinite)
    (hy : (10 : ℚ) ^ j ∈ span y.magnitude) :
    (shortest x).point ≤ j ↔ x.magnitude < y.magnitude := by
  have hspan := (shortest_coarsest hx hfin).1
  have hpos := digits_pos_of_mem_span hx hspan
  constructor
  · intro hpoint
    refine not_le.1 fun hle => ?_
    rcases hle.lt_or_eq with hlt | heq
    · have h := (lt_of_mem_span hlt hy hspan).trans (value_lt _)
      rw [zpow_lt_zpow_iff_right₀ (by norm_num)] at h
      omega
    · rw [heq] at hy
      have h := le_of_ten_zpow_mem_span hx hfin hy
      have hlength := (shortest x).length_pos
      rw [point] at hpoint
      omega
  · intro hlt
    have h := (le_value hpos).trans_lt (lt_of_mem_span hlt hspan hy)
    rw [zpow_lt_zpow_iff_right₀ (by norm_num)] at h
    omega

end Decimal

namespace Value

theorem leastLarge_eq : leastLarge = ofRatio false (Nat.pow 10 21) 1 := rfl

theorem leastWrittenOut_eq : leastWrittenOut = ofRatio false 1 (Nat.pow 10 6) := rfl

theorem isFinite_leastLarge : leastLarge.isFinite := by decide +kernel

theorem isFinite_leastWrittenOut : leastWrittenOut.isFinite := by decide +kernel

theorem ten_pow_mem_span_leastLarge : (10 : ℚ) ^ (21 : ℤ) ∈ span leastLarge.magnitude := by
  have h := mem_span_of_eq_ofRatio leastLarge_eq Nat.one_pos isFinite_leastLarge
  rwa [cast_pow, Nat.cast_one, div_one, Nat.cast_ofNat, ← zpow_natCast] at h

theorem ten_pow_mem_span_leastWrittenOut :
    (10 : ℚ) ^ (-6 : ℤ) ∈ span leastWrittenOut.magnitude := by
  have h := mem_span_of_eq_ofRatio leastWrittenOut_eq (Nat.pow_pos (by decide))
    isFinite_leastWrittenOut
  rwa [cast_pow, Nat.cast_one, one_div, Nat.cast_ofNat, ← zpow_natCast, ← zpow_neg] at h

theorem isNegative_leastLarge : leastLarge.isNegative = false := isNegative_ofRatio ..

theorem isNegative_leastWrittenOut : leastWrittenOut.isNegative = false := isNegative_ofRatio ..

/-- A number needs an exponent just if its point is beyond the 21st digit or more than five
places before the first. -/
theorem needsExponent_iff (hx : 0 < x.magnitude) (hfin : x.isFinite) :
    needsExponent x ↔ 21 < (Decimal.shortest x).point ∨ (Decimal.shortest x).point ≤ -6 := by
  have hzero : x.isZero = false := by simpa [isZero] using hx.ne'
  have hnan := isNaN_of_isFinite hfin
  have hlargeNaN : leastLarge.isNaN = false := isNaN_of_isFinite isFinite_leastLarge
  have hsmallNaN : leastWrittenOut.isNaN = false := isNaN_of_isFinite isFinite_leastWrittenOut
  have hlarge : 21 < (Decimal.shortest x).point ↔ leastLarge.magnitude ≤ x.magnitude := by
    rw [← not_le, Decimal.point_shortest_le_iff hx hfin ten_pow_mem_span_leastLarge, not_lt]
  rw [needsExponent, hzero, Bool.not_false, Bool.true_and, Bool.or_eq_true,
    any_isGE_order?_abs hnan hlargeNaN isNegative_leastLarge,
    any_isLT_order?_abs hnan hsmallNaN isNegative_leastWrittenOut, hlarge,
    Decimal.point_shortest_le_iff hx hfin ten_pow_mem_span_leastWrittenOut]

/-! ## The layout -/

/-- The text of a size with the digits `s` and the point after the `n`th of them, which may lie
outside. -/
def decimalText (s : List Char) (n : ℤ) : List Char :=
  if s.length ≤ n ∧ n ≤ 21 then s ++ List.replicate (n - s.length).toNat '0'
  else if 0 < n ∧ n ≤ 21 then s.take n.toNat ++ '.' :: s.drop n.toNat
  else if -6 < n ∧ n ≤ 0 then '0' :: '.' :: List.replicate (-n).toNat '0' ++ s
  else s.take 1 ++ (if 1 < s.length then '.' :: s.drop 1 else []) ++
    'e' :: (if n - 1 < 0 then '-' else '+') :: Layout.digitsOf (n - 1).natAbs

theorem fixed_eq_decimalText {s : List Char} {n : ℤ} (hs : 0 < s.length) (hlow : -6 < n)
    (hhigh : n ≤ 21) : Layout.fixed false s n = decimalText s n := by
  rw [Layout.fixed, decimalText]
  by_cases hwhole : s.length ≤ n
  · have hpoint : ¬n ≤ 0 := by omega
    have hfits : s.length ≤ n ∧ n ≤ 21 := ⟨hwhole, hhigh⟩
    rw [if_neg hpoint, if_pos hwhole, if_pos hfits, if_neg Bool.false_ne_true, List.append_nil,
      Layout.zeros]
  · have hfits : ¬(s.length ≤ n ∧ n ≤ 21) := fun h => hwhole h.1
    rw [if_neg hfits]
    by_cases hpoint : 0 < n
    · have hnot : ¬n ≤ 0 := by omega
      have hinside : 0 < n ∧ n ≤ 21 := ⟨hpoint, hhigh⟩
      rw [if_neg hnot, if_neg hwhole, if_pos hinside]
    · have hbefore : n ≤ 0 := by omega
      have hinside : ¬(0 < n ∧ n ≤ 21) := fun h => hpoint h.1
      have hnear : -6 < n ∧ n ≤ 0 := ⟨hlow, hbefore⟩
      rw [if_pos hbefore, if_neg hinside, if_pos hnear, Layout.zeros]

/-! ## The exponent -/

theorem not_mem_digitsOf {c : Char} (hc : c.isDigit = false) (n : ℕ) : c ∉ Layout.digitsOf n := by
  intro h
  rw [Nat.isDigit_of_mem_toDigits (by decide) (by decide) h] at hc
  cases hc

theorem toList_toString_int (z : ℤ) :
    (toString z).toList = (if z < 0 then ['-'] else []) ++ Layout.digitsOf z.natAbs := by
  rw [Int.toString_eq_repr, Int.repr_eq_if]
  by_cases hz : z < 0
  · have hnat : (-z).toNat = z.natAbs := by omega
    rw [if_neg (by omega), if_pos hz, String.toList_append, Nat.toList_repr, hnat]
    rfl
  · have hnat : z.toNat = z.natAbs := by omega
    rw [if_pos (by omega), if_neg hz, Nat.toList_repr, hnat]
    rfl

/-- The exponent gets a plus sign if it has no minus sign. -/
theorem signExponent_append {mantissa : List Char} (h : 'e' ∉ mantissa) (z : ℤ) :
    signExponent (mantissa ++ 'e' :: (toString z).toList) =
      mantissa ++ 'e' :: (if z < 0 then '-' else '+') :: Layout.digitsOf z.natAbs := by
  have hp : ∀ c ∈ mantissa, decide (c ≠ 'e') = true := by
    intro c hc
    rw [decide_eq_true_eq]
    rintro rfl
    exact h hc
  rw [signExponent, List.span_eq_takeWhile_dropWhile, List.takeWhile_append_of_pos hp,
    List.dropWhile_append_of_pos hp, toList_toString_int]
  by_cases hz : z < 0
  · simp [hz]
  · have hhead : (Layout.digitsOf z.natAbs).head? ≠ some '-' := fun hhead =>
      not_mem_digitsOf (by decide) _ (List.mem_of_mem_head? hhead)
    simp [hz, hhead]

theorem not_mem_signText (x : Binary64) : 'e' ∉ signText x := by
  rw [signText]
  split <;> decide

/-- A number whose point is far outside of its digits is written with an exponent. -/
theorem signExponent_plainExponentText
    (h : 21 < (Decimal.shortest x).point ∨ (Decimal.shortest x).point ≤ -6) :
    signExponent (plainExponentText x) = signText x ++
      decimalText (Layout.digitsOf (Decimal.shortest x).digits) (Decimal.shortest x).point := by
  have hdigits : 'e' ∉ Layout.digitsOf (Decimal.shortest x).digits :=
    not_mem_digitsOf (by decide) _
  have hlength : 0 < (Layout.digitsOf (Decimal.shortest x).digits).length :=
    Nat.length_toDigits_pos
  have hpoint : (Layout.digitsOf (Decimal.shortest x).digits).length + (Decimal.shortest x).exponent =
      (Decimal.shortest x).point := rfl
  rw [plainExponentText, hpoint]
  generalize Layout.digitsOf (Decimal.shortest x).digits = s at *
  generalize (Decimal.shortest x).point = n at *
  have hmantissa : 'e' ∉ signText x ++ s.take 1 ++ (if s.length ≤ 1 then [] else '.' :: s.drop 1) := by
    rw [List.mem_append, List.mem_append, not_or, not_or]
    refine ⟨⟨not_mem_signText x, mt List.mem_of_mem_take hdigits⟩, ?_⟩
    split
    · exact List.not_mem_nil
    · rw [List.mem_cons, not_or]
      exact ⟨by decide, mt List.mem_of_mem_drop hdigits⟩
  have hfits : ¬(s.length ≤ n ∧ n ≤ 21) := by omega
  have hinside : ¬(0 < n ∧ n ≤ 21) := by omega
  have hnear : ¬(-6 < n ∧ n ≤ 0) := by omega
  rw [signExponent_append hmantissa, decimalText, if_neg hfits, if_neg hinside, if_neg hnear]
  by_cases hone : 1 < s.length
  · rw [if_pos hone, if_neg (not_le.2 hone), List.append_assoc, List.append_assoc, List.append_assoc]
  · rw [if_neg hone, if_pos (not_lt.1 hone), List.append_assoc, List.append_assoc, List.append_assoc]

/-! ## Integers -/

theorem digitsOf_mul_pow {n : ℕ} (hn : 0 < n) (k : ℕ) :
    Layout.digitsOf (n * 10 ^ k) = Layout.digitsOf n ++ Layout.zeros k := by
  induction k with
  | zero => rw [Nat.pow_zero, Nat.mul_one, Layout.zeros, List.replicate_zero, List.append_nil]
  | succ k ih =>
    have h := @Nat.toDigits_append_toDigits 10 (n * 10 ^ k) 0 (by decide)
      (Nat.mul_pos hn (Nat.pow_pos (by decide))) (by decide)
    have hmul : n * 10 ^ (k + 1) = 10 * (n * 10 ^ k) + 0 := by ring
    rw [hmul, Layout.digitsOf, ← h, ← Layout.digitsOf, ih, Layout.zeros, Layout.zeros,
      List.replicate_succ', ← List.append_assoc]
    rfl

/-- An integer is written out as it is. -/
theorem toString_exactInt {i : ℤ} (hx : 0 < x.magnitude) (h : x.exactInt? = some i) :
    toString i = writtenOut x := by
  obtain ⟨hfin, n, hw, hn, hi⟩ := exactInt?_eq_some h
  obtain ⟨k, hk, hdigits⟩ := Decimal.shortest_of_wholeSize? hx hfin hw hn
  have hpos := Decimal.digits_pos_of_mem_span hx (Decimal.shortest_coarsest hx hfin).1
  have hn0 : 0 < n := by
    have hsize := size_pos hx
    rw [wholeSize?_eq_some_iff.1 hw] at hsize
    exact_mod_cast hsize
  have hnat : i.natAbs = n := by
    rw [hi]
    split <;> omega
  have hsign : i < 0 ↔ x.isNegative := by
    rw [hi]
    split <;> simp_all
  have hlength : 0 < (Layout.digitsOf (Decimal.shortest x).digits).length := Nat.length_toDigits_pos
  have hfixed : Layout.fixed false (Layout.digitsOf (Decimal.shortest x).digits)
      ((Layout.digitsOf (Decimal.shortest x).digits).length + (Decimal.shortest x).exponent) =
        Layout.digitsOf n := by
    rw [Layout.fixed, hk, if_neg (by omega), if_pos (by omega), ← hdigits, digitsOf_mul_pow hpos]
    simp
  rw [writtenOut, hfixed, signText, ← String.ofList_toList (s := toString i), toList_toString_int,
    hnat]
  simp only [hsign]

theorem writtenOut_of_isZero (h : x.isZero) :
    writtenOut x = if x.isNegative then "-0" else "0" := by
  rw [writtenOut, Decimal.shortest, if_pos h, signText]
  cases x.isNegative <;> rfl

/-- The integer and all digits of a number are one text, but for the sign of a negative zero. -/
theorem toString_eq_writtenOut_iff {i : ℤ} (h : x.exactInt? = some i) :
    toString i = writtenOut x ↔ ¬(x.isZero ∧ x.isNegative) := by
  cases hz : x.isZero with
  | false =>
    have hx : 0 < x.magnitude := Nat.pos_of_ne_zero (by simpa [isZero] using hz)
    simp [toString_exactInt hx h]
  | true =>
    rw [exactInt?_of_isZero hz, Option.some.injEq] at h
    rw [← h, writtenOut_of_isZero hz]
    cases x.isNegative <;> decide

/-! ## The text -/

theorem numberText_of_isFinite (hx : 0 < x.magnitude) (hfin : x.isFinite) :
    numberText x = String.ofList (signText x ++
      decimalText (Layout.digitsOf (Decimal.shortest x).digits) (Decimal.shortest x).point) := by
  have hlength : 0 < (Layout.digitsOf (Decimal.shortest x).digits).length :=
    Nat.length_toDigits_pos
  have hneeds := needsExponent_iff hx hfin
  simp only [numberText, isNaN_of_isFinite hfin, isInfinite_of_isFinite hfin]
  by_cases h : needsExponent x
  · rw [if_neg Bool.false_ne_true, if_neg Bool.false_ne_true, if_pos h,
      signExponent_plainExponentText (hneeds.1 h)]
  · have hpoint := mt hneeds.2 h
    have hwritten : writtenOut x = String.ofList (signText x ++
        decimalText (Layout.digitsOf (Decimal.shortest x).digits) (Decimal.shortest x).point) := by
      rw [writtenOut, ← fixed_eq_decimalText hlength (by omega) (by omega)]
      rfl
    rw [if_neg Bool.false_ne_true, if_neg Bool.false_ne_true, if_neg h, ← hwritten]
    cases hi : x.exactInt? with
    | none => rfl
    | some i => exact toString_exactInt hx hi

/-- A NaN, the infinities and the zeros have names. Any other number is laid out by its shortest
decimal: written out with its point if that is at most 21 places after the start or fewer than six
before, and else with an exponent. Where a number is an integer that can be exact, its digits are
those of that integer, but for a negative zero. -/
theorem number_text (x : Binary64) :
    ∃ text, (Value.number x).text? = some text ∧
      (x.isNaN → text = "NaN") ∧
      (x.isInfinite → text = if x.isNegative then "-Infinity" else "Infinity") ∧
      (x.isZero → text = "0") ∧
      (x.isFinite → x.isZero = false → ∃ d : Decimal,
        d.IsShortest x ∧ (∀ d' : Decimal, d'.IsShortest x → d' = d) ∧
          text = String.ofList ((if x.isNegative then ['-'] else []) ++
            decimalText (Layout.digitsOf d.digits) d.point)) ∧
      ∀ i : ℤ, x.exactInt? = some i →
        (toString i = writtenOut x ↔ ¬(x.isZero ∧ x.isNegative)) := by
  refine ⟨numberText x, rfl, ?_, ?_, numberText_of_isZero, ?_, fun i => toString_eq_writtenOut_iff⟩
  · intro h
    simp [numberText, h]
  · intro h
    have hnan : x.isNaN = false := by
      simp only [isInfinite, beq_iff_eq] at h
      simp [isNaN, h]
    simp [numberText, h, hnan]
  · intro hfin hzero
    have hx : 0 < x.magnitude := Nat.pos_of_ne_zero (by simpa [isZero] using hzero)
    have hshortest := Decimal.isShortest_shortest hx hfin
    exact ⟨Decimal.shortest x, hshortest, fun d' hd' => hd'.unique hx hfin hshortest,
      numberText_of_isFinite hx hfin⟩

/-- One number of each kind: the least that is too large to be written out, a NaN, an infinity
and the negative zero. -/
theorem number_text_of_each_kind :
    let minusZero : Binary64 := .ofMagnitude true 0
    (leastLarge.isFinite ∧ leastLarge.isZero = false ∧
        (Value.number leastLarge).text? = some "1e+21") ∧
      (nan.isNaN ∧ (Value.number nan).text? = some "NaN") ∧
      ((infinity true).isInfinite ∧ (Value.number (infinity true)).text? = some "-Infinity") ∧
      (minusZero.isZero ∧ (Value.number minusZero).text? = some "0") ∧
      (minusZero.exactInt? = some 0 ∧ toString (0 : ℤ) ≠ writtenOut minusZero) := by
  intro minusZero
  have hfin := isFinite_leastLarge
  have hnonzero : leastLarge.isZero = false := by decide +kernel
  have hnan : nan.isNaN := by decide
  have hinfinite : (infinity true).isInfinite := by decide
  have hzero : minusZero.isZero := by decide
  have hint : minusZero.exactInt? = some 0 := exactInt?_of_isZero hzero
  refine ⟨⟨hfin, hnonzero, ?_⟩, ⟨hnan, ?_⟩, ⟨hinfinite, ?_⟩, ⟨hzero, ?_⟩, hint, ?_⟩
  · obtain ⟨text, htext, -, -, -, hlaidOut, -⟩ := number_text leastLarge
    obtain ⟨d, -, hunique, hd⟩ := hlaidOut hfin hnonzero
    have hpos : 0 < leastLarge.magnitude := by decide +kernel
    have hshortest : Decimal.shortest leastLarge = ⟨1, 21⟩ := by decide +kernel
    rw [← hunique _ (Decimal.isShortest_shortest hpos hfin), hshortest, isNegative_leastLarge] at hd
    rw [htext, hd]
    decide
  · obtain ⟨text, htext, hname, -⟩ := number_text nan
    rw [htext, hname hnan]
  · obtain ⟨text, htext, -, hname, -⟩ := number_text (infinity true)
    rw [htext, hname hinfinite]
    rfl
  · obtain ⟨text, htext, -, -, hname, -⟩ := number_text minusZero
    rw [htext, hname hzero]
  · obtain ⟨text, -, -, -, -, -, hdigits⟩ := number_text minusZero
    exact fun heq => (hdigits 0 hint).1 heq ⟨hzero, by decide⟩

end Value

end Targeting

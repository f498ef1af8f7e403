import Mathlib.Order.Interval.Set.OrdConnected
import Mathlib.Tactic.Linarith
import Mathlib.Tactic.Ring
import Targeting.Proofs.NumberLine
/-!
# What rounds to a number

The sizes of the numbers are in the order of their magnitudes, and `halfway m` lies in the
middle between the sizes of the magnitudes `m` and `m + 1`. A quotient rounds to the magnitude
in whose span it lies (`magnitudeOfRatio_eq_iff`): between the halves on either side, which
themselves belong to the even magnitude.
-/

namespace Targeting.Binary64

/-! ## Sizes by magnitude -/

/-- The step from the size of a magnitude to the next, in the smallest units. -/
def gapAfter (m : ℕ) : ℕ := 2 ^ (m / exponentUnit - 1)

/-- The size of a magnitude, in the smallest units. -/
def unitsOf (m : ℕ) : ℕ :=
  (if m / exponentUnit = 0 then m % exponentUnit else exponentUnit + m % exponentUnit) * gapAfter m

theorem gapAfter_pos (m : ℕ) : 0 < gapAfter m := Nat.two_pow_pos _

section

variable (e : ℕ) {f : ℕ} (hf : f < exponentUnit)

include hf

theorem fields_div : (e * exponentUnit + f) / exponentUnit = e := by
  rw [Nat.mul_comm, Nat.mul_add_div (by decide), Nat.div_eq_of_lt hf, Nat.add_zero]

theorem gapAfter_fields : gapAfter (e * exponentUnit + f) = 2 ^ (e - 1) := by
  rw [gapAfter, fields_div e hf]

/-- The size of a magnitude by its exponent and its fraction. -/
theorem unitsOf_fields :
    unitsOf (e * exponentUnit + f) = (if e = 0 then f else exponentUnit + f) * 2 ^ (e - 1) := by
  rw [unitsOf, gapAfter_fields e hf, fields_div e hf, Nat.mul_comm e, Nat.mul_add_mod,
    Nat.mod_eq_of_lt hf]

end

theorem unitsOf_succ (m : ℕ) : unitsOf (m + 1) = unitsOf m + gapAfter m := by
  obtain ⟨e, f, hf, rfl⟩ : ∃ e f, f < exponentUnit ∧ m = e * exponentUnit + f :=
    ⟨_, _, Nat.mod_lt m (by decide), (Nat.div_add_mod' ..).symm⟩
  rw [unitsOf_fields e hf, gapAfter_fields e hf]
  -- either the fraction grows, or it is full and carries into the exponent
  rcases Nat.lt_or_ge (f + 1) exponentUnit with hroom | hfull
  · rw [Nat.add_assoc, unitsOf_fields e hroom]
    split <;> ring
  · have hcarry : e * exponentUnit + f + 1 = (e + 1) * exponentUnit + 0 := by
      rw [Nat.add_one_mul]
      omega
    rw [hcarry, unitsOf_fields (e + 1) (by decide), if_neg (Nat.add_one_ne_zero e)]
    cases e with
    | zero =>
      rw [if_pos rfl]
      omega
    | succ e =>
      have hsum : exponentUnit + f + 1 = 2 * exponentUnit := by omega
      rw [if_neg (Nat.add_one_ne_zero e), ← Nat.succ_mul, Nat.succ_eq_add_one, hsum,
        Nat.add_sub_cancel, Nat.add_sub_cancel]
      ring

theorem unitsOf_strictMono : StrictMono unitsOf := by
  refine strictMono_nat_of_lt_succ fun m => ?_
  rw [unitsOf_succ]
  exact Nat.lt_add_of_pos_right (gapAfter_pos m)

/-- A significand of at most 53 bits at a place makes the magnitude of its size, also when it
carries into the next exponent. -/
theorem unitsOf_place {place r : ℕ} (hlow : place = 0 ∨ exponentUnit ≤ r)
    (hhigh : r ≤ 2 * exponentUnit) : unitsOf (place * exponentUnit + r) = r * 2 ^ place := by
  rcases Nat.lt_or_ge r exponentUnit with hsmall | hbig
  · obtain rfl : place = 0 := by omega
    rw [unitsOf_fields 0 hsmall, if_pos rfl]
  rcases hhigh.lt_or_eq with hlt | heq
  · have hfields : place * exponentUnit + r =
        (place + 1) * exponentUnit + (r - exponentUnit) := by
      rw [Nat.add_one_mul]
      omega
    rw [hfields, unitsOf_fields _ (by omega), if_neg (Nat.add_one_ne_zero place),
      Nat.add_sub_cancel, Nat.add_sub_cancel' hbig]
  · have hfields : place * exponentUnit + r = (place + 2) * exponentUnit + 0 := by
      rw [heq]
      ring
    have hexp : place + 2 - 1 = place + 1 := rfl
    rw [hfields, unitsOf_fields _ (by decide), if_neg (Nat.add_one_ne_zero _), hexp, heq]
    ring

/-! ## Halves between neighbours -/

/-- How many halves of the smallest unit make 1. -/
@[irreducible]
def halvesInOne : ℚ := 2 * 2 ^ 1074

theorem halvesInOne_pos : 0 < halvesInOne := by
  rw [halvesInOne]
  positivity

theorem cast_pow (b n : ℕ) : ((Nat.pow b n : ℕ) : ℚ) = b ^ n := Nat.cast_pow b n

theorem mul_halvesInOne (n : ℕ) : n * halvesInOne = (2 * (n * Nat.pow 2 1074) : ℕ) := by
  simp only [halvesInOne, Nat.cast_mul, cast_pow, Nat.cast_two, mul_left_comm]

/-- The middle between the sizes of a magnitude and the next, in halves of the smallest unit. -/
def halfway (m : ℕ) : ℕ := 2 * unitsOf m + gapAfter m

/-- The middle between the sizes of the magnitude before and this one; there is none before 0. -/
def halfwayBefore : ℕ → ℕ
  | 0 => 0
  | m + 1 => halfway m

theorem halfway_add_gapAfter (m : ℕ) : halfway m + gapAfter m = 2 * unitsOf (m + 1) := by
  rw [halfway, unitsOf_succ]
  ring

theorem halfway_strictMono : StrictMono halfway := by
  refine strictMono_nat_of_lt_succ fun m => ?_
  have hm := halfway_add_gapAfter m
  have hgap := gapAfter_pos m
  have hgap' := gapAfter_pos (m + 1)
  rw [halfway.eq_def (m + 1)]
  omega

/-- The sizes that are nearest to that of a magnitude. The two halves belong to it if it is
even. -/
@[irreducible]
def span (m : ℕ) : Set ℚ :=
  if m % 2 = 0 then Set.Icc (halfwayBefore m / halvesInOne) (halfway m / halvesInOne)
  else Set.Ioo (halfwayBefore m / halvesInOne) (halfway m / halvesInOne)

theorem mem_span_iff {m : ℕ} {v : ℚ} : v ∈ span m ↔
    (halfwayBefore m / halvesInOne ≤ v ∧ v ≤ halfway m / halvesInOne) ∧
      (m % 2 ≠ 0 → halfwayBefore m / halvesInOne ≠ v ∧ v ≠ halfway m / halvesInOne) := by
  unfold span
  split <;> simp only [Set.mem_Icc, Set.mem_Ioo, lt_iff_le_and_ne] <;> tauto

instance ordConnected_span (m : ℕ) : (span m).OrdConnected := by
  unfold span
  split <;> infer_instance

/-- What is between two sizes in a span is in it too. -/
theorem mem_span_of_le {m : ℕ} {a b c : ℚ} (ha : a ∈ span m) (hc : c ∈ span m) (hab : a ≤ b)
    (hbc : b ≤ c) : b ∈ span m :=
  (ordConnected_span m).out ha hc ⟨hab, hbc⟩

/-- The spans are apart, in the order of the magnitudes. -/
theorem lt_of_mem_span {m n : ℕ} {a b : ℚ} (h : m < n) (ha : a ∈ span m) (hb : b ∈ span n) :
    a < b := by
  obtain ⟨k, rfl⟩ := Nat.exists_eq_add_one.2 (Nat.zero_lt_of_lt h)
  rw [mem_span_iff] at ha hb
  have hhalf : halfway m / halvesInOne ≤ halfway k / halvesInOne := by
    have hle : halfway m ≤ halfway k := halfway_strictMono.monotone (Nat.le_of_lt_succ h)
    exact div_le_div_of_nonneg_right (Nat.cast_le.2 hle) halvesInOne_pos.le
  refine lt_of_le_of_ne (ha.1.2.trans (hhalf.trans hb.1.1)) fun hab => ?_
  -- a common point is the half between two neighbours, one of which is odd
  have hk : halfway k / halvesInOne = b := le_antisymm hb.1.1 (hab ▸ ha.1.2.trans hhalf)
  have hm : a = halfway m / halvesInOne :=
    le_antisymm ha.1.2 (hhalf.trans (hb.1.1.trans hab.ge))
  have heq : m = k := by
    have hquot : halfway m / halvesInOne = halfway k / halvesInOne := by rw [← hm, hab, hk]
    rw [div_left_inj' halvesInOne_pos.ne', Nat.cast_inj] at hquot
    exact halfway_strictMono.injective hquot
  by_cases hodd : m % 2 = 0
  · exact (hb.2 (by omega)).1 hk
  · exact (ha.2 hodd).2 hm

theorem eq_of_mem_span {m n : ℕ} {a : ℚ} (hm : a ∈ span m) (hn : a ∈ span n) : m = n := by
  rcases Nat.lt_trichotomy m n with h | h | h
  · exact absurd (lt_of_mem_span h hm hn) (lt_irrefl a)
  · exact h
  · exact absurd (lt_of_mem_span h hn hm) (lt_irrefl a)

/-! ## Rounding -/

/-- The result of rounding is at most half a unit below the quotient, and even if it is that
far. -/
theorem le_roundHalfEven {a d : ℕ} (hd : 0 < d) :
    2 * a ≤ (2 * roundHalfEven a d + 1) * d ∧
      (2 * a = (2 * roundHalfEven a d + 1) * d → roundHalfEven a d % 2 = 0) := by
  have hdiv := Nat.div_add_mod' a d
  have hlt := Nat.mod_lt a hd
  have hone : (2 * (a / d) + 1) * d = 2 * (a / d * d) + d := by ring
  have hnext : (2 * (a / d + 1) + 1) * d = 2 * (a / d * d) + 3 * d := by ring
  simp only [roundHalfEven]
  split
  · omega
  split
  · omega
  split
  · omega
  · omega

/-- It is at most half a unit above the quotient, and even if it is that far. -/
theorem roundHalfEven_le {a d : ℕ} (hd : 0 < d) :
    2 * (roundHalfEven a d * d) ≤ 2 * a + d ∧
      (2 * (roundHalfEven a d * d) = 2 * a + d → roundHalfEven a d % 2 = 0) := by
  have hdiv := Nat.div_add_mod' a d
  have hlt := Nat.mod_lt a hd
  have hnext : (a / d + 1) * d = a / d * d + d := by ring
  simp only [roundHalfEven]
  split
  · omega
  split
  · omega
  split
  · omega
  · omega

/-- The unit in which `scaled / den` smallest units are rounded, as a place. -/
def placeOf (scaled den : ℕ) : ℕ := unitPlace (scaled / den)

/-- The significand that `scaled / den` smallest units are rounded to. -/
def significandOf (scaled den : ℕ) : ℕ := roundHalfEven scaled (den * 2 ^ placeOf scaled den)

/-- The magnitude nearest to `scaled / den` smallest units, if there were no largest. -/
def nearestMagnitude (scaled den : ℕ) : ℕ :=
  placeOf scaled den * exponentUnit + significandOf scaled den

theorem magnitudeOfRatio_eq (num den : ℕ) :
    magnitudeOfRatio num den = min (nearestMagnitude (num * Nat.pow 2 1074) den) infiniteMagnitude :=
  rfl

variable {scaled den : ℕ}

theorem lt_two_pow_unitPlace (q : ℕ) : q < 2 * exponentUnit * 2 ^ unitPlace q := by
  have hle : q.log2 + 1 ≤ 53 + unitPlace q := by
    rw [unitPlace]
    omega
  calc q < 2 ^ (q.log2 + 1) := Nat.lt_log2_self
    _ ≤ 2 ^ (53 + unitPlace q) := Nat.pow_le_pow_right (by decide) hle
    _ = 2 * exponentUnit * 2 ^ unitPlace q := by rw [Nat.pow_add]; rfl

theorem two_pow_unitPlace_le {q : ℕ} (h : unitPlace q ≠ 0) : exponentUnit * 2 ^ unitPlace q ≤ q := by
  have hq : q ≠ 0 := by
    rintro rfl
    exact h rfl
  have heq : 52 + unitPlace q = q.log2 := by
    rw [unitPlace] at *
    omega
  calc exponentUnit * 2 ^ unitPlace q = 2 ^ (52 + unitPlace q) := by rw [Nat.pow_add]; rfl
    _ = 2 ^ q.log2 := by rw [heq]
    _ ≤ q := Nat.log2_self_le hq

theorem nearestMagnitude_mod_two (scaled den : ℕ) :
    nearestMagnitude scaled den % 2 = significandOf scaled den % 2 := by
  simp only [nearestMagnitude, exponentUnit]
  omega

section

variable (scaled) (hden : 0 < den)

include hden

theorem two_pow_placeOf_le (h : placeOf scaled den ≠ 0) :
    exponentUnit * (den * 2 ^ placeOf scaled den) ≤ scaled := by
  have hle := (Nat.le_div_iff_mul_le hden).1 (two_pow_unitPlace_le h)
  rwa [Nat.mul_assoc, Nat.mul_comm (2 ^ _)] at hle

theorem lt_two_pow_placeOf : scaled < 2 * exponentUnit * (den * 2 ^ placeOf scaled den) := by
  have hlt := (Nat.div_lt_iff_lt_mul hden).1 (lt_two_pow_unitPlace (scaled / den))
  rwa [Nat.mul_assoc, Nat.mul_comm (2 ^ _)] at hlt

theorem le_significandOf :
    2 * scaled ≤ (2 * significandOf scaled den + 1) * (den * 2 ^ placeOf scaled den) ∧
      (2 * scaled = (2 * significandOf scaled den + 1) * (den * 2 ^ placeOf scaled den) →
        significandOf scaled den % 2 = 0) :=
  le_roundHalfEven (Nat.mul_pos hden (Nat.two_pow_pos _))

theorem significandOf_le :
    2 * (significandOf scaled den * (den * 2 ^ placeOf scaled den)) ≤
        2 * scaled + den * 2 ^ placeOf scaled den ∧
      (2 * (significandOf scaled den * (den * 2 ^ placeOf scaled den)) =
          2 * scaled + den * 2 ^ placeOf scaled den →
        significandOf scaled den % 2 = 0) :=
  roundHalfEven_le (Nat.mul_pos hden (Nat.two_pow_pos _))

/-- A significand has all 53 bits unless its unit is the smallest. -/
theorem exponentUnit_le_significandOf (h : placeOf scaled den ≠ 0) :
    exponentUnit ≤ significandOf scaled den := by
  have hlt : 2 * exponentUnit < 2 * significandOf scaled den + 2 := by
    refine Nat.lt_of_mul_lt_mul_right (a := den * 2 ^ placeOf scaled den) ?_
    have hpos : 0 < den * 2 ^ placeOf scaled den := Nat.mul_pos hden (Nat.two_pow_pos _)
    linarith [two_pow_placeOf_le scaled hden h, (le_significandOf scaled hden).1]
  omega

/-- It has at most 53 bits, or carries. -/
theorem significandOf_le_two_mul : significandOf scaled den ≤ 2 * exponentUnit := by
  have hlt : 2 * significandOf scaled den < 2 * (2 * exponentUnit) + 2 := by
    refine Nat.lt_of_mul_lt_mul_right (a := den * 2 ^ placeOf scaled den) ?_
    have hpos : 0 < den * 2 ^ placeOf scaled den := Nat.mul_pos hden (Nat.two_pow_pos _)
    linarith [lt_two_pow_placeOf scaled hden, (significandOf_le scaled hden).1]
  omega

theorem unitsOf_nearestMagnitude :
    unitsOf (nearestMagnitude scaled den) = significandOf scaled den * 2 ^ placeOf scaled den := by
  refine unitsOf_place ?_ (significandOf_le_two_mul scaled hden)
  exact or_iff_not_imp_left.2 (exponentUnit_le_significandOf scaled hden)

/-- A quotient is at most half a gap above what it rounds to, and that is even if it is that
far above. -/
theorem le_halfway_nearestMagnitude :
    2 * scaled ≤ halfway (nearestMagnitude scaled den) * den ∧
      (2 * scaled = halfway (nearestMagnitude scaled den) * den →
        nearestMagnitude scaled den % 2 = 0) := by
  have hgap : 2 ^ placeOf scaled den ≤ gapAfter (nearestMagnitude scaled den) := by
    refine Nat.pow_le_pow_right (by decide) ?_
    have hlow := exponentUnit_le_significandOf scaled hden
    simp only [nearestMagnitude, exponentUnit] at *
    omega
  obtain ⟨hle, htie⟩ := le_significandOf scaled hden
  have hhalf : (2 * significandOf scaled den + 1) * (den * 2 ^ placeOf scaled den) ≤
      halfway (nearestMagnitude scaled den) * den := by
    rw [halfway, unitsOf_nearestMagnitude scaled hden]
    calc _ = (2 * (significandOf scaled den * 2 ^ placeOf scaled den) +
          2 ^ placeOf scaled den) * den := by ring
      _ ≤ _ := by gcongr
  rw [nearestMagnitude_mod_two]
  exact ⟨hle.trans hhalf, fun heq => htie (hle.antisymm (heq ▸ hhalf))⟩

/-- It is at most half a gap below what it rounds to, and that is even if it is that far below. -/
theorem halfwayBefore_nearestMagnitude_le :
    halfwayBefore (nearestMagnitude scaled den) * den ≤ 2 * scaled ∧
      (halfwayBefore (nearestMagnitude scaled den) * den = 2 * scaled →
        nearestMagnitude scaled den % 2 = 0) := by
  obtain ⟨hle, htie⟩ := significandOf_le scaled hden
  rw [← nearestMagnitude_mod_two] at htie
  have hunits := unitsOf_nearestMagnitude scaled hden
  have hhigh := significandOf_le_two_mul scaled hden
  have hlow := exponentUnit_le_significandOf scaled hden
  cases hm : nearestMagnitude scaled den with
  | zero => simp [halfwayBefore]
  | succ k =>
    rw [hm] at hunits htie
    have hhalf : halfway k * den + gapAfter k * den =
        2 * (significandOf scaled den * (den * 2 ^ placeOf scaled den)) := by
      rw [← Nat.add_mul, halfway_add_gapAfter, hunits]
      ring
    by_cases hfirst : placeOf scaled den ≠ 0 ∧ significandOf scaled den = exponentUnit
    · -- the gap below the first significand of a place is half as wide
      have hgap : 0 < gapAfter k * den := Nat.mul_pos (gapAfter_pos k) hden
      have hscaled := two_pow_placeOf_le scaled hden hfirst.1
      rw [hfirst.2] at hhalf
      simp only [halfwayBefore]
      omega
    · have hgap : gapAfter k = 2 ^ placeOf scaled den := by
        rw [gapAfter]
        congr 1
        simp only [nearestMagnitude, exponentUnit] at *
        omega
      rw [hgap, Nat.mul_comm (2 ^ _) den] at hhalf
      simp only [halfwayBefore]
      omega

theorem mem_span_nearestMagnitude (num : ℕ) :
    (num / den : ℚ) ∈ span (nearestMagnitude (num * Nat.pow 2 1074) den) := by
  have hpos : (0 : ℚ) < den := Nat.cast_pos.2 hden
  have hone := halvesInOne_pos
  simp only [mem_span_iff, div_le_div_iff₀ hone hpos, div_le_div_iff₀ hpos hone, ne_eq,
    div_eq_div_iff hone.ne' hpos.ne', div_eq_div_iff hpos.ne' hone.ne', mul_halvesInOne]
  generalize num * Nat.pow 2 1074 = scaled
  obtain ⟨hbefore, htieBefore⟩ := halfwayBefore_nearestMagnitude_le scaled hden
  obtain ⟨hafter, htieAfter⟩ := le_halfway_nearestMagnitude scaled hden
  norm_cast
  exact ⟨⟨hbefore, hafter⟩, fun hodd => ⟨mt htieBefore hodd, mt htieAfter hodd⟩⟩

/-- A quotient rounds to the magnitude in whose span it lies. -/
theorem magnitudeOfRatio_eq_iff {m : ℕ} (hm : m < infiniteMagnitude) (num : ℕ) :
    magnitudeOfRatio num den = m ↔ (num / den : ℚ) ∈ span m := by
  have hspan := mem_span_nearestMagnitude hden num
  rw [magnitudeOfRatio_eq]
  constructor
  · intro h
    have heq : nearestMagnitude (num * Nat.pow 2 1074) den = m := by omega
    rwa [heq] at hspan
  · intro h
    rw [eq_of_mem_span hspan h]
    omega

end

/-! ## The number with a magnitude -/

theorem word_ofMagnitude {negative : Bool} {m : ℕ} (h : m < signUnit) :
    (ofMagnitude negative m).word = (if negative then signUnit else 0) + m := by
  rw [word, ofMagnitude, UInt64.toNat_ofNat']
  refine Nat.mod_eq_of_lt ?_
  simp only [signUnit] at *
  split <;> omega

theorem isNegative_ofMagnitude {negative : Bool} {m : ℕ} (h : m < signUnit) :
    (ofMagnitude negative m).isNegative = negative := by
  rw [isNegative, word_ofMagnitude h]
  cases negative with
  | false => simpa using h
  | true => simp

theorem magnitude_ofMagnitude {negative : Bool} {m : ℕ} (h : m < signUnit) :
    (ofMagnitude negative m).magnitude = m := by
  rw [magnitude, word_ofMagnitude h]
  cases negative <;> simp [Nat.mod_eq_of_lt h]

theorem ofMagnitude_magnitude (x : Binary64) : ofMagnitude x.isNegative x.magnitude = x := by
  have h : x.magnitude < signUnit := Nat.mod_lt _ (by decide)
  apply eq_of_word_eq
  rw [word_ofMagnitude h, word_eq x]

theorem eq_of_magnitude_eq {x y : Binary64} (hn : x.isNegative = y.isNegative)
    (hm : x.magnitude = y.magnitude) : x = y := by
  rw [← ofMagnitude_magnitude x, ← ofMagnitude_magnitude y, hn, hm]

theorem magnitudeOfRatio_le (num den : ℕ) : magnitudeOfRatio num den ≤ infiniteMagnitude :=
  Nat.min_le_right ..

theorem magnitude_ofRatio (negative : Bool) (num den : ℕ) :
    (ofRatio negative num den).magnitude = magnitudeOfRatio num den :=
  magnitude_ofMagnitude ((magnitudeOfRatio_le num den).trans_lt (by decide))

theorem isNegative_ofRatio (negative : Bool) (num den : ℕ) :
    (ofRatio negative num den).isNegative = negative :=
  isNegative_ofMagnitude ((magnitudeOfRatio_le num den).trans_lt (by decide))

/-- A quotient with a number's sign rounds to the number if it lies in its span. -/
theorem ofRatio_eq_iff {x : Binary64} (hx : x.isFinite) {num den : ℕ} (hden : 0 < den) :
    ofRatio x.isNegative num den = x ↔ (num / den : ℚ) ∈ span x.magnitude := by
  have hm : x.magnitude < infiniteMagnitude := by simpa [isFinite] using hx
  rw [← magnitudeOfRatio_eq_iff hden hm]
  constructor
  · intro h
    rw [← magnitude_ofRatio x.isNegative, h]
  · intro h
    exact eq_of_magnitude_eq (isNegative_ofRatio ..) ((magnitude_ofRatio ..).trans h)

/-- A quotient lies in the span of what it rounds to. -/
theorem mem_span_of_eq_ofRatio {x : Binary64} {negative : Bool} {num den : ℕ}
    (hx : x = ofRatio negative num den) (hden : 0 < den) (hfin : x.isFinite) :
    (num / den : ℚ) ∈ span x.magnitude := by
  rw [← ofRatio_eq_iff hfin hden, hx, isNegative_ofRatio]

end Targeting.Binary64

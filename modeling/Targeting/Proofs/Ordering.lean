import Mathlib.Order.Compare
import Targeting.Proofs.Membership
import Targeting.Proofs.NumberLine
import Targeting.Proofs.TextOrder
/-!
# The order of values

Texts are ordered, and so are numbers that are no NaN; nothing else is. The four operators of
the order and `$eq` agree on it: of two values that are ordered, one is less, equal or
greater, and of two that are not, no operator of the order holds, equal or not
(`ordering_operators`).
-/

namespace Targeting

/-! ## Values that are ordered -/

namespace Value

/-- Whether a value that may be absent is ordered against another: both are texts, or both are
numbers and none is a NaN. -/
inductive Comparable : Option Value → Value → Prop
  | string (s t : String) : Comparable (some (.string s)) (.string t)
  | number {x y : Binary64} : x.isNaN = false → y.isNaN = false →
    Comparable (some (.number x)) (.number y)

/-- Whether a value comes before another in the order. -/
inductive Less : Value → Value → Prop
  | string {s t : String} : s < t → Less (.string s) (.string t)
  | number {x y : Binary64} : x.isNaN = false → y.isNaN = false → x.rank < y.rank →
    Less (.number x) (.number y)

theorem order?_number {x y : Binary64} (hx : x.isNaN = false) (hy : y.isNaN = false) :
    (number x).order? (.number y) = some (compare x.rank y.rank) := by
  simp [order?, Binary64.order?, hx, hy]

/-- One of two values that are ordered comes before the other, unless they are equal. -/
theorem Comparable.bind_order? {v : Option Value} {c : Value} (h : Comparable v c) :
    ∃ o, v.bind (·.order? c) = some o ∧ equalIfPresent v c = (o == .eq) := by
  cases h with
  | string s t =>
    refine ⟨_, rfl, ?_⟩
    rw [equalIfPresent, Value.equal]
    split_ifs with hlt heq
    · have hne : s ≠ t := fun heq => String.lt_irrefl t (heq ▸ hlt)
      rw [beq_eq_false_iff_ne.2 hne]
      rfl
    · rw [heq, beq_self_eq_true]
      rfl
    · rw [beq_eq_false_iff_ne.2 heq]
      rfl
  | number hx hy =>
    refine ⟨_, order?_number hx hy, ?_⟩
    rw [equalIfPresent, Value.equal, Binary64.equal, hx, hy, Bool.eq_iff_iff]
    simp

theorem bind_order?_eq_none {v : Option Value} {c : Value} (h : ¬Comparable v c) :
    v.bind (·.order? c) = none := by
  cases v with
  | none => rfl
  | some u =>
    rw [Option.bind_some]
    cases u with
    | string s =>
      cases c with
      | string t => exact absurd (.string s t) h
      | _ => rfl
    | number x =>
      cases c with
      | number y =>
        by_cases hx : x.isNaN
        · simp [Value.order?, Binary64.order?, hx]
        · by_cases hy : y.isNaN
          · simp [Value.order?, Binary64.order?, hy]
          · exact absurd (.number (by simpa using hx) (by simpa using hy)) h
      | _ => rfl
    | _ => rfl

theorem order?_eq_lt_iff {u c : Value} : u.order? c = some .lt ↔ Less u c := by
  constructor
  · intro h
    by_cases hc : Comparable (some u) c
    · cases hc with
      | string s t =>
        refine .string ?_
        by_contra hlt
        simp only [Value.order?, if_neg hlt, Option.some.injEq] at h
        split at h <;> cases h
      | number hx hy =>
        rw [order?_number hx hy, Option.some.injEq, compare_lt_iff_lt] at h
        exact .number hx hy h
    · have hnone := bind_order?_eq_none hc
      rw [Option.bind_some, h] at hnone
      cases hnone
  · intro h
    cases h with
    | string h => simp [Value.order?, h]
    | number hx hy h => rw [order?_number hx hy, compare_lt_iff_lt.2 h]

namespace Less

variable {u c d : Value}

theorem trans (h : Less u c) (h' : Less c d) : Less u d := by
  cases h with
  | string h =>
    cases h' with
    | string h' => exact .string (String.lt_trans h h')
  | number hx _ h =>
    cases h' with
    | number _ hy h' => exact .number hx hy (h.trans h')

theorem trans_equal (h : Less u c) (h' : c.equal d) : Less u d := by
  cases h with
  | @string s t h =>
    cases d with
    | string =>
      obtain rfl : t = _ := by simpa [Value.equal] using h'
      exact .string h
    | _ => cases h'
  | number hx _ h =>
    cases d with
    | number =>
      simp only [Value.equal, Binary64.equal, Bool.and_eq_true, beq_iff_eq, Bool.not_eq_true'] at h'
      exact .number hx h'.1.2 (h'.2 ▸ h)
    | _ => cases h'

end Less

end Value

/-! ## Operators of the order -/

/-- The orders of a value and an operand that an operator holds in. -/
def Operator.asksFor : Operator → Ordering → Bool
  | .eq, o => o == .eq
  | .gt, o => o == .gt
  | .gte, o => o != .lt
  | .lt, o => o == .lt
  | .lte, o => o != .gt
  | _, _ => false

section
variable [PatternEngine] {v : Option Value} {x : Value}

theorem matchCondition_ordering {op : Operator} (hop : op ∈ [Operator.gt, .gte, .lt, .lte])
    (v : Option Value) (x : Value) :
    matchCondition v (.operation op x) = ⟨Value.isOrdered op.asksFor v x, []⟩ := by
  simp only [List.mem_cons, List.not_mem_nil, or_false] at hop
  rcases hop with rfl | rfl | rfl | rfl <;>
    exact matchCondition_operation (o := outcomes.answer _) rfl rfl

theorem holds_eq_asksFor {o : Ordering} (ho : v.bind (·.order? x) = some o) {op : Operator}
    (hop : op ∈ [Operator.eq, .gt, .gte, .lt, .lte]) :
    (matchCondition v (.operation op x)).holds = op.asksFor o := by
  rcases List.mem_cons.1 hop with rfl | hop
  · -- `$eq` does not look at the order, so it is known only of values that are ordered
    have hv : Value.Comparable v x := by
      by_contra hv
      rw [Value.bind_order?_eq_none hv] at ho
      cases ho
    obtain ⟨o', ho', he⟩ := hv.bind_order?
    obtain rfl : o' = o := Option.some_injective _ (ho'.symm.trans ho)
    rw [matchCondition_eq, he]
    rfl
  · rw [matchCondition_ordering hop, Value.isOrdered, ho]

theorem holds_lt_iff : (matchCondition v (.operation .lt x)).holds ↔ ∃ u, v = some u ∧ u.Less x := by
  rw [matchCondition_ordering (by decide), Value.isOrdered]
  cases v with
  | none => simp
  | some u =>
    rw [Option.bind_some]
    cases h : u.order? x with
    | none => simp [← Value.order?_eq_lt_iff, h]
    | some o => simp [← Value.order?_eq_lt_iff, h, Operator.asksFor]

theorem holds_lt_string_iff {s t : String} :
    (matchCondition (some (.string s)) (.operation .lt (.string t))).holds ↔ s < t := by
  rw [holds_lt_iff]
  constructor
  · rintro ⟨_, ⟨⟩, ⟨h⟩⟩
    exact h
  · intro h
    exact ⟨_, rfl, .string h⟩

theorem holds_number_eq_asksFor {x y : Binary64} (hx : x.isNaN = false) (hy : y.isNaN = false)
    {op : Operator} (hop : op ∈ [Operator.eq, .gt, .gte, .lt, .lte]) :
    (matchCondition (some (.number x)) (.operation op (.number y))).holds =
      op.asksFor (compare x.rank y.rank) := by
  have ho : (some (Value.number x)).bind (·.order? (.number y)) = some _ := Value.order?_number hx hy
  exact holds_eq_asksFor ho hop

theorem holds_lt_number_iff {x y : Binary64} (hx : x.isNaN = false) (hy : y.isNaN = false) :
    (matchCondition (some (.number x)) (.operation .lt (.number y))).holds ↔ x.rank < y.rank := by
  rw [holds_number_eq_asksFor hx hy (by decide), Operator.asksFor, beq_iff_eq, compare_lt_iff_lt]

/-- Exactly one of three operators holds of values that are ordered. -/
theorem Value.Comparable.trichotomy (h : Comparable v x) :
    ∃! op, op ∈ [Operator.lt, .eq, .gt] ∧ (matchCondition v (.operation op x)).holds := by
  obtain ⟨o, ho, -⟩ := h.bind_order?
  have hmem : ∀ op ∈ [Operator.lt, .eq, .gt], op ∈ [Operator.eq, .gt, .gte, .lt, .lte] := by decide
  have hone : ∃! op, op ∈ [Operator.lt, .eq, .gt] ∧ op.asksFor o := by
    cases o with
    | lt => exact ⟨.lt, by decide, by simp [Operator.asksFor]⟩
    | eq => exact ⟨.eq, by decide, by simp [Operator.asksFor]⟩
    | gt => exact ⟨.gt, by decide, by simp [Operator.asksFor]⟩
  refine (existsUnique_congr fun op => and_congr_right fun hop => ?_).2 hone
  rw [holds_eq_asksFor ho (hmem op hop)]

end

/-- Of values that are ordered exactly one of `$lt`, `$eq` and `$gt` holds, `$lte` and `$gte`
hold where one of two of these does, and `$lt` is transitive. Texts are in the
lexicographic order of their code points, which is that of their bytes in UTF-8; finite
numbers are in the order of what they are worth, the infinities are the ends, and the two
zeros are equal. Of values that are not ordered none of the four operators holds, and
nothing is reported. -/
theorem ordering_operators [PatternEngine] :
    let report (op : Operator) (v : Option Value) (x : Value) := matchCondition v (.operation op x)
    (∀ v x, Value.Comparable v x →
      (∃! op, op ∈ [Operator.lt, .eq, .gt] ∧ (report op v x).holds) ∧
      ((report .lte v x).holds ↔ (report .lt v x).holds ∨ (report .eq v x).holds) ∧
      ((report .gte v x).holds ↔ (report .gt v x).holds ∨ (report .eq v x).holds)) ∧
    (∀ v x y, (report .lt v x).holds → (report .lt (some x) y).holds ∨ (report .eq (some x) y).holds →
      (report .lt v y).holds) ∧
    (∀ s t : String,
      ((report .lt (some (.string s)) (.string t)).holds ↔
        List.Lex (fun c d : Char => c.toNat < d.toNat) s.toList t.toList) ∧
      ((report .lt (some (.string s)) (.string t)).holds ↔
        List.Lex (· < ·) (Text.utf8 s) (Text.utf8 t))) ∧
    (∀ x y : Binary64, x.isFinite → y.isFinite →
      ((report .lt (some (.number x)) (.number y)).holds ↔ x.worth < y.worth)) ∧
    (∀ x : Binary64, x.isNaN = false →
      ((report .gt (some (.number x)) (.number (.infinity true))).holds ∨ x = .infinity true) ∧
      ((report .lt (some (.number x)) (.number (.infinity false))).holds ∨ x = .infinity false)) ∧
    (∀ x y : Binary64, x.isZero → y.isZero → (report .eq (some (.number x)) (.number y)).holds) ∧
    ∀ v x, ¬Value.Comparable v x → ∀ op ∈ [Operator.gt, .gte, .lt, .lte],
      report op v x = ⟨false, []⟩ := by
  intro report
  refine ⟨?_, ?_, ?_, ?_, ?_, ?_, ?_⟩
  · intro v x h
    obtain ⟨o, ho, -⟩ := h.bind_order?
    refine ⟨h.trichotomy, ?_, ?_⟩
    · simp (disch := decide) only [report, holds_eq_asksFor ho]
      cases o <;> decide
    · simp (disch := decide) only [report, holds_eq_asksFor ho]
      cases o <;> decide
  · intro v x y hx hy
    obtain ⟨u, rfl, hux⟩ := holds_lt_iff.1 hx
    refine holds_lt_iff.2 ⟨u, rfl, ?_⟩
    rcases hy with hlt | heq
    · obtain ⟨_, hsome, hxy⟩ := holds_lt_iff.1 hlt
      cases hsome
      exact hux.trans hxy
    · simp only [report, matchCondition_eq] at heq
      exact hux.trans_equal heq
  · intro s t
    rw [Text.lex_codePoints_iff, Text.lex_utf8_iff]
    exact ⟨holds_lt_string_iff, holds_lt_string_iff⟩
  · intro x y hx hy
    rw [Binary64.worth_lt_worth_iff]
    exact holds_lt_number_iff (Binary64.isNaN_of_isFinite hx) (Binary64.isNaN_of_isFinite hy)
  · intro x hx
    refine ⟨?_, ?_⟩
    · refine (Binary64.rank_infinity_lt_or_eq hx).imp_left fun h => ?_
      have hgt : (report .gt (some (.number x)) (.number (.infinity true))).holds = _ :=
        holds_number_eq_asksFor hx rfl (by decide)
      rw [hgt, Operator.asksFor, beq_iff_eq, compare_gt_iff_gt]
      exact h
    · refine (Binary64.rank_lt_infinity_or_eq hx).imp_left fun h => ?_
      exact (holds_lt_number_iff hx rfl).2 h
  · intro x y hx hy
    have heq : (report .eq (some (.number x)) (.number y)).holds = _ :=
      holds_number_eq_asksFor (Binary64.isNaN_of_isZero hx) (Binary64.isNaN_of_isZero hy) (by decide)
    rw [heq, Binary64.rank_of_isZero hx, Binary64.rank_of_isZero hy]
    rfl
  · intro v x h op hop
    simp only [report, matchCondition_ordering hop, Value.isOrdered, Value.bind_order?_eq_none h]

/-- The code units of UTF-16 would put these texts the other way round. Absent, null and NaN
are in no order, also where `$eq` holds. -/
theorem ordering_operators_mixed :
    let report (op : Operator) (v : Option Value) (x : Value) := matchCondition v (.operation op x)
    let low : Value := .string "a\uffff"
    let high : Value := .string "a😀"
    let tiny : Binary64 := .ofMagnitude false 1
    let negativeZero : Binary64 := .ofMagnitude true 0
    (Value.Comparable (some low) high ∧
      (∃! op, op ∈ [Operator.lt, .eq, .gt] ∧ (report op (some low) high).holds) ∧
      (report .lte (some low) high).holds) ∧
    ((report .lt (some (.string "a")) low).holds ∧ (report .lt (some low) high).holds ∧
      (report .lt (some (.string "a")) high).holds) ∧
    (Binary64.zero.isFinite ∧ tiny.isFinite ∧ Binary64.zero.worth < tiny.worth) ∧
    (tiny.isNaN = false ∧ (report .lt (some (.number tiny)) (.number (.infinity false))).holds) ∧
    (negativeZero.isZero ∧ Binary64.zero.isZero ∧
      (report .eq (some (.number negativeZero)) (.number .zero)).holds) ∧
    (¬Value.Comparable (some .null) .null ∧ Operator.gte ∈ [Operator.gt, .gte, .lt, .lte] ∧
      report .gte (some .null) .null = ⟨false, []⟩ ∧ (report .eq (some .null) .null).holds) ∧
    (∀ v ∈ [none, some (.number .nan)], ¬Value.Comparable v (.number .nan) ∧
      report .lte v (.number .nan) = ⟨false, []⟩) := by
  intro report low high tiny negativeZero
  obtain ⟨htotal, htrans, -, hworth, hends, hzeros, hnone⟩ := ordering_operators
  have hcomparable : Value.Comparable (some low) high := .string _ _
  have hlow : (report .lt (some (.string "a")) low).holds := by decide
  have hhigh : (report .lt (some low) high).holds := by decide
  have hnull : ¬Value.Comparable (some .null) .null := by
    intro h
    cases h
  obtain ⟨hone, hlte, -⟩ := htotal (some low) high hcomparable
  refine ⟨⟨hcomparable, hone, hlte.2 (.inl hhigh)⟩, ⟨hlow, hhigh, ?_⟩, ⟨by decide, by decide, ?_⟩,
    ⟨by decide, ?_⟩, ⟨by decide, by decide, ?_⟩, ⟨hnull, by decide, ?_, by decide⟩, ?_⟩
  · exact htrans (some (.string "a")) low high hlow (.inl hhigh)
  · exact (hworth .zero tiny (by decide) (by decide)).1 (by decide)
  · exact (hends tiny (by decide)).2.resolve_right (by decide)
  · exact hzeros negativeZero .zero (by decide) (by decide)
  · exact hnone (some .null) .null hnull .gte (by decide)
  · intro v hv
    have hnan : ¬Value.Comparable v (.number .nan) := by
      intro h
      cases h with
      | number _ hy => cases hy
    exact ⟨hnan, hnone v (.number .nan) hnan .lte (by decide)⟩

end Targeting

import Targeting.Proofs.Items
/-!
# Equality and membership

Five ways to ask whether a value is there and equals an operand, or equals one of a list,
are one relation (`equality_operators`): an operand is compared also if it looks like
operators, a NaN is equal to nothing, and nothing equals an absent value. Only an operand
that is no list makes `$in` and `$nin` agree, since neither holds then.

`$in` compares each value of its list with the one asked about and `$eq` the other way
round, so lists rest on equality being symmetric, which it is on values whose objects have
no key twice.
-/

namespace Targeting

theorem equalIfPresent_iff {v : Option Value} {c : Value} :
    Value.equalIfPresent v c ↔ ∃ u, v = some u ∧ u.equal c := by
  cases v <;> simp [Value.equalIfPresent]

/-! ## Reports of single comparisons -/

section
variable [PatternEngine] (v : Option Value)

theorem matchCondition_eq (x : Value) :
    matchCondition v (.operation .eq x) = ⟨Value.equalIfPresent v x, []⟩ :=
  matchCondition_operation (o := outcomes.answer _) rfl rfl

theorem matchCondition_ne (x : Value) :
    matchCondition v (.operation .ne x) = ⟨!Value.equalIfPresent v x, []⟩ :=
  matchCondition_operation (o := outcomes.answer _) rfl rfl

theorem matchCondition_isIn (xs : List Value) :
    matchCondition v (.operation .isIn (.array xs)) = ⟨Value.isAmong v xs, []⟩ :=
  matchCondition_operation (o := outcomes.answer _) rfl rfl

theorem matchCondition_notIn (xs : List Value) :
    matchCondition v (.operation .notIn (.array xs)) = ⟨!Value.isAmong v xs, []⟩ :=
  matchCondition_operation (o := outcomes.answer _) rfl rfl

theorem matchCondition_literal {x : Value} (hx : x.isLiteral) :
    matchCondition v x = ⟨Value.equalIfPresent v x, []⟩ := by
  have hf := matchCondition_follows v x
  rw [conditionOutcome, Evaluation.condition_of_isLiteral outcomes hx] at hf
  exact hf.within (Nat.zero_le _)

theorem matchCondition_of_not_accepts {op : Operator} {c : Value} (hc : op.accepts c = false) :
    matchCondition v (.operation op c) = ⟨false, [.malformedOperand op]⟩ := by
  have hn : Operator.ofName? op.name = some op := Operator.ofName?_eq_some_iff.2 rfl
  have ho := Evaluation.operator_of_not_accepts outcomes hn hc v
  exact matchCondition_operation ho rfl

end

/-! ## One relation -/

/-- Whether a value is there and equals an operand is asked by `$eq`, by the operand itself if
it is a literal, and is denied by `$ne`. `$in` asks it of some member of a list, and `$nin`
denies it of all. `$in` and `$nin` compare a member with the value and not the value with the
member, which comes to the same for values whose objects have no key twice. None of these
reports a problem; with an operand that is no list, `$in` and `$nin` report just that, each for
itself, and neither holds. -/
theorem equality_operators [PatternEngine] :
    let report (op : Operator) (v : Option Value) (operand : Value) :=
      matchCondition v (.operation op operand)
    (∀ v x,
      ((report .eq v x).holds ↔ ∃ u, v = some u ∧ u.equal x) ∧
      ((report .eq v x).holds ↔ ¬(report .ne v x).holds) ∧
      (x.isLiteral → ((report .eq v x).holds ↔ (matchCondition v x).holds))) ∧
    (∀ v x, (∀ u ∈ v, u.Keyed) → x.Keyed →
      ((report .eq v x).holds ↔ (report .isIn v (.array [x])).holds) ∧
      ((report .eq v x).holds ↔ ¬(report .notIn v (.array [x])).holds)) ∧
    (∀ v xs, (∀ u ∈ v, u.Keyed) → (Value.array xs).Keyed →
      ((report .isIn v (.array xs)).holds ↔ ∃ x ∈ xs, (report .eq v x).holds) ∧
      ((report .notIn v (.array xs)).holds ↔ ∀ x ∈ xs, (report .ne v x).holds)) ∧
    (∀ v xs, (report .notIn v (.array xs)).holds ↔ ¬(report .isIn v (.array xs)).holds) ∧
    (∀ v x xs,
      (report .eq v x).diagnostics = [] ∧ (report .ne v x).diagnostics = [] ∧
      (report .isIn v (.array xs)).diagnostics = [] ∧
      (report .notIn v (.array xs)).diagnostics = [] ∧
      (x.isLiteral → (matchCondition v x).diagnostics = [])) ∧
    ∀ v operand, operand.asArray? = none → ∀ op ∈ [Operator.isIn, .notIn],
      report op v operand = ⟨false, [.malformedOperand op]⟩ := by
  intro report
  refine ⟨?_, ?_, ?_, ?_, ?_, ?_⟩
  · intro v x
    simp only [report, matchCondition_eq, matchCondition_ne]
    refine ⟨equalIfPresent_iff, by simp, ?_⟩
    intro hx
    rw [matchCondition_literal v hx]
  · intro v x hv hx
    have hxs : (Value.array [x]).Keyed := by simp [Value.Keyed, itemsKeyed, hx]
    have hamong : Value.isAmong v [x] = Value.equalIfPresent v x := by
      rw [isAmong_eq_any hv hxs, List.any_cons, List.any_nil, Bool.or_false]
    simp only [report, matchCondition_eq, matchCondition_isIn, matchCondition_notIn, hamong]
    simp
  · intro v xs hv hxs
    simp only [report, matchCondition_eq, matchCondition_ne, matchCondition_isIn,
      matchCondition_notIn, isAmong_eq_any hv hxs]
    simp
  · intro v xs
    simp only [report, matchCondition_isIn, matchCondition_notIn]
    simp
  · intro v x xs
    simp only [report, matchCondition_eq, matchCondition_ne, matchCondition_isIn, matchCondition_notIn,
      true_and]
    intro hx
    rw [matchCondition_literal v hx]
  · intro v operand ho op hop
    apply matchCondition_of_not_accepts
    simp only [List.mem_cons, List.not_mem_nil, or_false] at hop
    rcases hop with rfl | rfl <;> simp [Operator.accepts, ho]

/-- An array with a NaN is a literal that does not even equal itself, and an object that looks
like operators equals itself in another order of its keys. With an object `$nin` does not hold,
not even of an absent value. -/
theorem equality_operators_nan :
    let nan : Value := .array [.number .nan]
    let shaped : Value := .object [("$gt", .null), ("$lt", .null)]
    let turned : Value := .object [("$lt", .null), ("$gt", .null)]
    ((∀ u ∈ some nan, u.Keyed) ∧ (Value.array [nan, nan]).Keyed ∧ nan.isLiteral ∧
      (matchCondition (some nan) nan).holds = false ∧
      (matchCondition (some nan) nan).diagnostics = [] ∧
      (matchCondition (some nan) (.operation .ne nan)).holds ∧
      (matchCondition (some nan) (.operation .notIn (.array [nan, nan]))).holds) ∧
    ((∀ u ∈ some turned, u.Keyed) ∧ shaped.Keyed ∧ shaped.isLiteral = false ∧
      (matchCondition (some turned) (.operation .isIn (.array [shaped]))).holds) ∧
    shaped.asArray? = none ∧ Operator.notIn ∈ [Operator.isIn, .notIn] ∧
      matchCondition none (.operation .notIn shaped) = ⟨false, [.malformedOperand .notIn]⟩ := by
  intro nan shaped turned
  obtain ⟨hone, hsingle, hlists, -, hsilent, hrefused⟩ := equality_operators
  obtain ⟨heq, hne, hliteral⟩ := hone (some nan) nan
  have hnan : ¬∃ u, some nan = some u ∧ u.equal nan := by
    rintro ⟨u, hu, hself⟩
    cases hu
    exact absurd hself (by decide)
  have hneq : (matchCondition (some nan) (.operation .ne nan)).holds := by
    by_contra h
    exact hnan (heq.1 (hne.2 h))
  have hk : ∀ u ∈ some nan, u.Keyed := by simp [nan, Value.Keyed, itemsKeyed]
  have hks : (Value.array [nan, nan]).Keyed := by simp [nan, Value.Keyed, itemsKeyed]
  have hkt : ∀ u ∈ some turned, u.Keyed := by simp [turned, Value.Keyed, fieldsKeyed]
  have hksh : shaped.Keyed := by simp [shaped, Value.Keyed, fieldsKeyed]
  refine ⟨⟨hk, hks, rfl, ?_, (hsilent (some nan) nan []).2.2.2.2 rfl, hneq, ?_⟩,
    ⟨hkt, hksh, by decide, ?_⟩, rfl, by decide, ?_⟩
  · rw [Bool.eq_false_iff]
    intro h
    exact hnan (heq.1 ((hliteral rfl).2 h))
  · refine (hlists (some nan) [nan, nan] hk hks).2.2 ?_
    simp [hneq]
  · obtain ⟨heq, -⟩ := hone (some turned) shaped
    exact (hsingle (some turned) shaped hkt hksh).1.1 (heq.2 ⟨turned, rfl, by decide⟩)
  · exact hrefused none shaped rfl .notIn (by decide)

end Targeting

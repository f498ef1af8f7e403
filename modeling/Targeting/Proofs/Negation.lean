import Targeting.Pattern.Matcher
import Targeting.Proofs.Laws
import Targeting.Proofs.Nesting
/-!
# Negation

A negation takes one level more than what it negates. Unless it is refused for
that, it has the opposite answer and met the same problems in the same order, so
two negations cancel (`negation_law`). If it is refused it does not hold, although
what it negates may not hold either.
-/

namespace Targeting

/-- The condition that is met where `c` is not. -/
def Value.negated (c : Value) : Value := .object [("$not", c)]

/-- The rule that holds where `r` does not. -/
def Rule.negated (r : Rule) : Rule := ⟨[("$not", .object r.conditions)]⟩

/-! ## Checks -/

namespace Checks.Lawful

variable [PatternEngine] {χ : Type} {k : Checks χ}

theorem condition_negated (h : k.Lawful) (c : Value) (v : Option Value) :
    Evaluation.condition k c.negated v = k.enter (k.not (Evaluation.condition k c v)) := by
  have hn : Operator.ofName? "$not" = some .not := rfl
  rw [Value.negated, h.condition_single (by decide)]
  simp only [Evaluation.operator, hn]

theorem rule_negated (h : k.Lawful) (r : Rule) (document : Value) :
    Evaluation.rule k r.negated.conditions document =
      k.enter (k.not (Evaluation.rule k r.conditions document)) := by
  have hn : Combinator.ofName? "$not" = some .not := rfl
  rw [Rule.negated, h.rule_single]
  simp only [Evaluation.key, hn, Evaluation.notOne, Evaluation.rule]

end Checks.Lawful

@[simp]
theorem Outcome.not_not (o : Outcome) : outcomes.not (outcomes.not o) = o := outcomes_lawful.not_not o

theorem conditionOutcome_negated [PatternEngine] (v : Option Value) (c : Value) :
    conditionOutcome v c.negated = outcomes.enter (outcomes.not (conditionOutcome v c)) :=
  outcomes_lawful.condition_negated c v

theorem Rule.outcome_negated [PatternEngine] (r : Rule) (document : Value) :
    r.negated.outcome document = outcomes.enter (outcomes.not (r.outcome document)) :=
  outcomes_lawful.rule_negated r document

/-! ## Reports -/

/-- Whether a report is what negation makes of another. -/
structure Report.Negates (a b : Report) : Prop where
  within : a.tooDeepCount = 0 →
    b.tooDeepCount = 0 ∧ a.holds = !b.holds ∧ a.diagnostics = b.diagnostics
  beyond : a.tooDeepCount ≠ 0 → a.holds = false

namespace Report.Negates

variable {a b c : Report}

theorem of_follows {o : Outcome} (ha : a.Follows (outcomes.enter (outcomes.not o)))
    (hb : b.Follows o) : a.Negates b where
  within h0 := by
    have hd := ha.tooDeepCount_eq_zero_iff.1 h0
    simp only [Outcome.deepest_enter, Outcome.deepest_not] at hd
    have ho : o.deepest ≤ levelLimit := by omega
    refine ⟨hb.tooDeepCount_eq_zero_iff.2 ho, ?_, ?_⟩
    · rw [ha.eq_of_tooDeepCount_eq_zero h0, hb.within ho, Outcome.holds_enter, Outcome.holds_not]
    · rw [ha.eq_of_tooDeepCount_eq_zero h0, hb.within ho, Outcome.problems_enter,
        Outcome.problems_not]
  beyond h0 := by
    rw [ne_eq, ha.tooDeepCount_eq_zero_iff, Nat.not_le] at h0
    exact (ha.beyond h0).1

theorem cancel (h : a.Negates b) (h' : b.Negates c) (h0 : a.tooDeepCount = 0) : a = c := by
  obtain ⟨hb, hab, dab⟩ := h.within h0
  obtain ⟨-, hbc, dbc⟩ := h'.within hb
  rw [hbc, Bool.not_not] at hab
  rw [dbc] at dab
  cases a
  cases c
  cases hab
  cases dab
  rfl

end Report.Negates

theorem matchCondition_negated [PatternEngine] (v : Option Value) (c : Value) :
    (matchCondition v c.negated).Negates (matchCondition v c) :=
  .of_follows (conditionOutcome_negated v c ▸ matchCondition_follows v c.negated)
    (matchCondition_follows v c)

theorem Rule.evaluate_negated [PatternEngine] (r : Rule) (document : Value) :
    (r.negated.evaluate document).Negates (r.evaluate document) :=
  .of_follows (r.outcome_negated document ▸ r.negated.evaluate_follows document)
    (r.evaluate_follows document)

/-- Negation of a condition or of a rule turns the answer round and keeps the
problems, unless the negation is refused for its nesting. Two negations change
nothing, unless they are refused. -/
theorem negation_law [PatternEngine] :
    (∀ (v : Option Value) (c : Value), (matchCondition v c.negated).Negates (matchCondition v c)) ∧
    (∀ (r : Rule) (document : Value),
      (r.negated.evaluate document).Negates (r.evaluate document)) ∧
    (∀ (v : Option Value) (c : Value), (matchCondition v c.negated.negated).tooDeepCount = 0 →
      matchCondition v c.negated.negated = matchCondition v c) ∧
    ∀ (r : Rule) (document : Value), (r.negated.negated.evaluate document).tooDeepCount = 0 →
      r.negated.negated.evaluate document = r.evaluate document := by
  refine ⟨matchCondition_negated, Rule.evaluate_negated, ?_, ?_⟩
  · intro v c h0
    exact (matchCondition_negated v c.negated).cancel (matchCondition_negated v c) h0
  · intro r document h0
    exact (r.negated.evaluate_negated document).cancel (r.evaluate_negated document) h0

/-- Two negations of a condition and of a rule that reach the limit, and a negation
one level beyond it, which does not hold although what it negates does not either. -/
theorem negation_law_at_limit :
    let c : Value := Nat.repeat Value.negated 125 (.object [("$gtt", .null)])
    let r : Rule := ⟨[("a", Nat.repeat Value.negated 124 (.object [("$gtt", .null)]))]⟩
    let deepest : Value := Nat.repeat Value.negated 128 .null
    ((matchCondition none c.negated.negated).tooDeepCount = 0 ∧
      matchCondition none c.negated.negated = matchCondition none c) ∧
    ((r.negated.negated.evaluate .null).tooDeepCount = 0 ∧
      r.negated.negated.evaluate .null = r.evaluate .null) ∧
    (matchCondition none deepest.negated).tooDeepCount ≠ 0 ∧
      (matchCondition none deepest.negated).holds = false ∧
      matchCondition none deepest = ⟨false, []⟩ := by
  intro c r deepest
  obtain ⟨hcondition, -, hconditions, hrules⟩ := negation_law
  have hc : (matchCondition none c.negated.negated).tooDeepCount = 0 := by decide +kernel
  have hr : (r.negated.negated.evaluate .null).tooDeepCount = 0 := by decide +kernel
  have hd : (matchCondition none deepest.negated).tooDeepCount ≠ 0 := by decide +kernel
  exact ⟨⟨hc, hconditions none c hc⟩, ⟨hr, hrules r .null hr⟩, hd,
    (hcondition none deepest).beyond hd, by decide +kernel⟩

end Targeting

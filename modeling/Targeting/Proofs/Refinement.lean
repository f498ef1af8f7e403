import Targeting.Proofs.Nesting
/-!
# The limit refines unlimited nesting

`unlimited` opens every level that a test asks for. The main result is
`limit_refines_unlimited`: with the limit, a test runs as it does without one
until one level too many is to be opened, and from then on its answer is no,
whatever negations are around that level.
-/

namespace Targeting

/-! ## Tests without a limit -/

/-- The state of a test that may open any number of levels: how many are open,
and what happened so far. -/
structure Journal where
  depth : Nat := 0
  events : List Event := []

/-- Opens a level whatever is open already. -/
def unlimited : Guard Journal where
  enter p s :=
    let r := p ⟨s.depth + 1, s.events ++ [.opened (s.depth + 1)]⟩
    (r.1, { r.2 with depth := r.2.depth - 1 })
  record d s := { s with events := s.events ++ [.problem d] }

/-- Runs a check from the start, to its answer and all that happens. -/
def Check.outcome (p : Check Journal) : Outcome :=
  let r := p {}
  ⟨r.1, r.2.events⟩

/-- Whether a check does what its outcome says, from any state. -/
def Unlimited (p : Check Journal) (o : Outcome) : Prop :=
  ∀ n es, p ⟨n, es⟩ = (o.holds, ⟨n, es ++ o.events.map (.raise n)⟩)

theorem unlimited_related : unlimited.checks.Related outcomes Unlimited where
  answer b n es := by simp [Guard.checks, outcomes]
  next {p o f g} h hf n es := by
    have hp := h n es
    have hp' := hf o.holds n (es ++ o.events.map (.raise n))
    simp [Guard.checks, outcomes, hp, hp']
  enter {p o} h n es := by
    have hp := h (n + 1) (es ++ [.opened (n + 1)])
    simp [Guard.checks, unlimited, outcomes, hp, Event.inLevel, Nat.add_comm]
  fail _ n es := rfl

theorem Unlimited.outcome_eq {p : Check Journal} {o : Outcome} (h : Unlimited p o) : p.outcome = o := by
  simp [Check.outcome, h 0 [], Event.raise_zero]

/-! ## Refinement -/

/-- Whether levels are opened one at a time, so that the first level above `n` is
`n + 1`. -/
def Outcome.Stepwise (o : Outcome) : Prop :=
  ∀ n, o.events.takeWhile (· ≠ .opened (n + 1)) = Event.within n o.events

theorem stepwise_related : outcomes.Related outcomes fun o _ => o.Stepwise where
  answer b n := rfl
  next {o _ f _} h hf n := by
    have ho := h n
    have hg := hf o.holds n
    simp only [Event.within] at ho hg
    simp only [outcomes, Event.within, List.takeWhile_append, ho, hg]
  enter {o _} h n := by
    cases n with
    | zero => rfl
    | succ n =>
      have ho := h n
      have he (e : Event) : e.raise 1 = .opened (n + 2) ↔ e = .opened (n + 1) := by
        cases e <;> simp [Event.raise]
      rw [outcomes, Event.within_inLevel]
      simp [Event.inLevel, List.takeWhile_map, Function.comp_def, he, ← ho]
  fail _ n := rfl

/-- Whether a report refines a test that was run without a limit: it is that
test's if no more than `levelLimit` levels were open at once. Otherwise the test
is refused, which is reported once and after exactly the problems that were met
before the first level too many was opened. -/
structure Report.Refines (report : Report) (reference : Outcome) : Prop where
  same : reference.deepest ≤ levelLimit → report = ⟨reference.holds, reference.problems⟩
  refused : levelLimit < reference.deepest → report.holds = false ∧ report.tooDeepCount = 1 ∧
    ∃ later, report.diagnostics =
      reference.problemsBefore (levelLimit + 1) ++ .nestingTooDeep levelLimit :: later

theorem Report.Follows.refines {report : Report} {o : Outcome} (h : report.Follows o)
    (hs : o.Stepwise) : report.Refines o where
  same := h.within
  refused hd := by
    obtain ⟨hf, later, hl⟩ := h.beyond hd
    have hc : report.tooDeepCount = 1 := by
      rw [h.tooDeepCount, if_neg (by omega)]
    refine ⟨hf, hc, later, ?_⟩
    rw [hl, Outcome.problemsBefore, hs, Outcome.problemsWithin]

/-- Rules and conditions are tested as without a limit, up to the point where one
level too many would be opened. -/
theorem limit_refines_unlimited [PatternEngine] :
    (∀ (r : Rule) (document : Value), (r.evaluate document).Refines
      (Evaluation.rule unlimited.checks r.conditions document).outcome) ∧
    ∀ (v : Option Value) (c : Value), (matchCondition v c).Refines
      (Evaluation.condition unlimited.checks c v).outcome := by
  constructor
  · intro r document
    rw [(unlimited_related.rule r.conditions document).outcome_eq]
    exact (r.evaluate_follows document).refines (stepwise_related.rule r.conditions document)
  · intro v c
    rw [(unlimited_related.condition c v).outcome_eq]
    exact (matchCondition_follows v c).refines (stepwise_related.condition c v)

end Targeting

import Targeting.Proofs.Negation
/-!
# Laws of combinators

Rules combined by `$and`, `$or`, `$nor` and `$not` obey the laws of De Morgan, and
lists of rules can be put together, except that an empty `$or` holds (`deMorgan`).
The laws are about answers and problems, in order: the two sides of a law open
different numbers of levels, so one side may be refused where the other is not.
-/

namespace Targeting

/-- The rule whose only key is a combinator that holds a list of rules. -/
def Rule.combined (c : Combinator) (rules : List Rule) : Rule :=
  ⟨[(c.name, .array (rules.map fun r => .object r.conditions))]⟩

/-! ## Outcomes up to levels -/

/-- Whether two tests have the same answer and meet the same problems in the same
order, whatever levels they open. -/
structure Outcome.Same (o p : Outcome) : Prop where
  holds : o.holds = p.holds
  problems : o.problems = p.problems

namespace Outcome

theorem same_related : outcomes.Related outcomes Same where
  answer b := ⟨rfl, rfl⟩
  next {o p f g} h hf := by
    have hg := hf p.holds
    refine ⟨?_, ?_⟩
    · rw [holds_next, holds_next, h.holds, hg.holds]
    · rw [problems_next, problems_next, h.holds, h.problems, hg.problems]
  enter h := ⟨h.holds, by rw [problems_enter, problems_enter, h.problems]⟩
  fail _ := ⟨rfl, rfl⟩

namespace Same

theorem refl (o : Outcome) : o.Same o := ⟨rfl, rfl⟩

theorem of_eq {o p : Outcome} (h : o = p) : o.Same p := h ▸ refl o

theorem symm {o p : Outcome} (h : o.Same p) : p.Same o := ⟨h.holds.symm, h.problems.symm⟩

theorem trans {o p q : Outcome} (h : o.Same p) (h' : p.Same q) : o.Same q :=
  ⟨h.holds.trans h'.holds, h.problems.trans h'.problems⟩

theorem of_enter (o : Outcome) : (outcomes.enter o).Same o := ⟨rfl, problems_enter o⟩

variable {α : Type} {s t : α → Outcome}

theorem all (h : ∀ a, (s a).Same (t a)) (as : List α) :
    (outcomes.all s as).Same (outcomes.all t as) := by
  induction as with
  | nil => exact refl _
  | cons a as ih => exact same_related.andThen (h a) ih

end Same

@[simp]
theorem andThen_true (o : Outcome) : outcomes.andThen o (outcomes.answer true) = o :=
  outcomes_lawful.andThen_true o

@[simp]
theorem orElse_false (o : Outcome) : outcomes.orElse o (outcomes.answer false) = o :=
  outcomes_lawful.orElse_false o

end Outcome

/-! ## Combined rules -/

/-- A list of rules as a value. -/
def Value.ofRules (rules : List Rule) : Value := .array (rules.map fun r => .object r.conditions)

theorem all_isObject_rules (rules : List Rule) :
    (rules.map fun r => Value.object r.conditions).all Value.isObject = true := by
  simp [Value.isObject, Value.asObject?]

namespace Evaluation

variable [PatternEngine] {χ : Type} (k : Checks χ) (rules : List Rule) (document : Value)

theorem key_and : key k (Combinator.and.name, .ofRules rules) document =
    k.all (fun r => rule k r.conditions document) rules := by
  have hn : Combinator.ofName? Combinator.and.name = some .and := rfl
  simp only [Value.ofRules, key, hn, allOf, all_isObject_rules, if_true, everyRule_eq_all, Checks.all_map]
  rfl

/-- An empty list holds. -/
theorem key_or : key k (Combinator.or.name, .ofRules rules) document =
    if rules = [] then k.answer true else k.any (fun r => rule k r.conditions document) rules := by
  have hn : Combinator.ofName? Combinator.or.name = some .or := rfl
  simp only [Value.ofRules, key, hn, anyOf, all_isObject_rules, if_true, someRule_eq_any, Checks.any_map,
    List.isEmpty_map, List.isEmpty_iff]
  rfl

theorem key_nor : key k (Combinator.nor.name, .ofRules rules) document =
    k.not (k.any (fun r => rule k r.conditions document) rules) := by
  have hn : Combinator.ofName? Combinator.nor.name = some .nor := rfl
  simp only [Value.ofRules, key, hn, noneOf, all_isObject_rules, if_true, someRule_eq_any, Checks.any_map]
  rfl

end Evaluation

namespace Checks.Lawful

variable [PatternEngine] {χ : Type} {k : Checks χ} (h : k.Lawful) (rules : List Rule) (document : Value)
include h

theorem rule_and : Evaluation.rule k (Rule.combined .and rules).conditions document =
    k.enter (k.all (fun r => Evaluation.rule k r.conditions document) rules) := by
  rw [← Evaluation.key_and]
  exact h.rule_single (_, .ofRules rules) document

theorem rule_or : Evaluation.rule k (Rule.combined .or rules).conditions document =
    k.enter (if rules = [] then k.answer true
      else k.any (fun r => Evaluation.rule k r.conditions document) rules) := by
  rw [← Evaluation.key_or]
  exact h.rule_single (_, .ofRules rules) document

theorem rule_nor : Evaluation.rule k (Rule.combined .nor rules).conditions document =
    k.enter (k.not (k.any (fun r => Evaluation.rule k r.conditions document) rules)) := by
  rw [← Evaluation.key_nor]
  exact h.rule_single (_, .ofRules rules) document

end Checks.Lawful

/-! ## What combined rules come to -/

namespace Rule

variable [PatternEngine]

theorem same_negated {r : Rule} {document : Value} {o : Outcome} (h : (r.outcome document).Same o) :
    (r.negated.outcome document).Same (outcomes.not o) := by
  rw [outcome_negated]
  exact (Outcome.Same.of_enter _).trans (Outcome.same_related.not h)

variable (rules : List Rule) (document : Value)

theorem same_and : ((combined .and rules).outcome document).Same
    (outcomes.all (·.outcome document) rules) := by
  rw [outcome, outcomes_lawful.rule_and]
  exact .of_enter _

theorem same_or {rules : List Rule} (h : rules ≠ []) : ((combined .or rules).outcome document).Same
    (outcomes.any (·.outcome document) rules) := by
  rw [outcome, outcomes_lawful.rule_or, if_neg h]
  exact .of_enter _

theorem same_or_nil : ((combined .or []).outcome document).Same (outcomes.answer true) := by
  rw [outcome, outcomes_lawful.rule_or, if_pos rfl]
  exact .of_enter _

theorem same_nor : ((combined .nor rules).outcome document).Same
    (outcomes.not (outcomes.any (·.outcome document) rules)) := by
  rw [outcome, outcomes_lawful.rule_nor]
  exact .of_enter _

/-- All negated rules hold where none of the rules does. -/
theorem same_and_negated : ((combined .and (rules.map negated)).outcome document).Same
    (outcomes.not (outcomes.any (·.outcome document) rules)) := by
  refine (same_and _ document).trans ?_
  rw [Checks.all_map, outcomes_lawful.not_any]
  exact .all (fun r => same_negated (.refl _)) rules

theorem same_and_pair (xs ys : List Rule) :
    ((combined .and [combined .and xs, combined .and ys]).outcome document).Same
      (outcomes.all (·.outcome document) (xs ++ ys)) := by
  refine (same_and _ document).trans ?_
  rw [outcomes_lawful.all_append]
  simp only [Checks.all, Outcome.andThen_true]
  exact Outcome.same_related.andThen (same_and xs document) (same_and ys document)

theorem same_or_pair (xs ys : List Rule) :
    ((combined .or [combined .or xs, combined .or ys]).outcome document).Same
      (outcomes.orElse ((combined .or xs).outcome document) ((combined .or ys).outcome document)) := by
  refine (same_or document (by simp)).trans ?_
  simp only [Checks.any, Outcome.orElse_false]
  exact .refl _

/-- The first part holds if it is empty. -/
theorem same_or_pair_nil_left (ys : List Rule) :
    ((combined .or [combined .or [], combined .or ys]).outcome document).Same
      (outcomes.answer true) := by
  refine (same_or_pair document [] ys).trans ?_
  exact Outcome.same_related.orElse (same_or_nil document) (.refl _)

/-- The second part holds if it is empty, so that only the problems are those of
the first. -/
theorem same_or_pair_nil_right {xs : List Rule} (hx : xs ≠ []) :
    ((combined .or [combined .or xs, combined .or []]).outcome document).Same
      ⟨true, (outcomes.any (·.outcome document) xs).events⟩ := by
  refine (same_or_pair document xs []).trans ?_
  refine (Outcome.same_related.orElse (same_or document hx) (same_or_nil document)).trans (.of_eq ?_)
  simp [Checks.orElse, outcomes]

theorem same_or_append {xs ys : List Rule} (hx : xs ≠ []) (hy : ys ≠ []) :
    ((combined .or (xs ++ ys)).outcome document).Same
      ((combined .or [combined .or xs, combined .or ys]).outcome document) := by
  refine (same_or document (by simp [hx])).trans ?_
  rw [outcomes_lawful.any_append]
  refine .trans ?_ (same_or_pair document xs ys).symm
  exact Outcome.same_related.orElse (same_or document hx).symm (same_or document hy).symm

end Rule

/-! ## Reports -/

theorem Report.Follows.eq_iff_same {a b : Report} {o p : Outcome} (ha : a.Follows o)
    (hb : b.Follows p) (h0 : a.tooDeepCount = 0) (h0' : b.tooDeepCount = 0) : a = b ↔ o.Same p := by
  rw [ha.eq_of_tooDeepCount_eq_zero h0, hb.eq_of_tooDeepCount_eq_zero h0', Report.mk.injEq]
  exact ⟨fun h => ⟨h.1, h.2⟩, fun h => ⟨h.holds, h.problems⟩⟩

/-- Whether two rules have the same report for a document, unless one of them is
refused for its nesting. -/
def Rule.SameFor [PatternEngine] (document : Value) (r s : Rule) : Prop :=
  (r.evaluate document).tooDeepCount = 0 → (s.evaluate document).tooDeepCount = 0 →
    r.evaluate document = s.evaluate document

theorem Rule.SameFor.of_same [PatternEngine] {document : Value} {r s : Rule}
    (h : (r.outcome document).Same (s.outcome document)) : SameFor document r s := by
  intro hr hs
  exact ((r.evaluate_follows document).eq_iff_same (s.evaluate_follows document) hr hs).2 h

theorem Rule.or_split [PatternEngine] (xs ys : List Rule) (document : Value) :
    let whole := (combined .or (xs ++ ys)).outcome document
    let parts := (combined .or [combined .or xs, combined .or ys]).outcome document
    (whole.holds = parts.holds ↔ (xs ≠ [] ∧ ys ≠ []) ∨ whole.holds) ∧
    (whole.Same parts ↔
      (xs ≠ [] ∧ ys ≠ []) ∨ whole.holds ∧ (xs = [] → whole.problems = [])) := by
  intro whole parts
  by_cases hx : xs = []
  · subst hx
    have hp : parts.Same (outcomes.answer true) := same_or_pair_nil_left document ys
    refine ⟨by simp [hp.holds], ?_⟩
    constructor
    · intro h
      exact .inr ⟨h.holds.trans hp.holds, fun _ => h.problems.trans hp.problems⟩
    · rintro (⟨hx, -⟩ | ⟨hw, hw'⟩)
      · exact absurd rfl hx
      · exact ⟨hw.trans hp.holds.symm, (hw' rfl).trans hp.problems.symm⟩
  · by_cases hy : ys = []
    · subst hy
      have hw : whole.Same (outcomes.any (·.outcome document) xs) := by
        simpa only [whole, List.append_nil] using same_or document hx
      have hp := same_or_pair_nil_right document hx
      have hholds : parts.holds = true := hp.holds
      have hproblems : whole.problems = parts.problems := hw.problems.trans hp.problems.symm
      refine ⟨by simp [hholds], ?_⟩
      constructor
      · intro h
        exact .inr ⟨h.holds.trans hholds, fun h => absurd h hx⟩
      · rintro (⟨-, hy⟩ | ⟨hw, -⟩)
        · exact absurd rfl hy
        · exact ⟨hw.trans hholds.symm, hproblems⟩
    · have h : whole.Same parts := same_or_append document hx hy
      exact ⟨⟨fun _ => .inl ⟨hx, hy⟩, fun _ => h.holds⟩, ⟨fun _ => .inl ⟨hx, hy⟩, fun _ => h⟩⟩

/-- The laws of De Morgan hold of combined rules, and lists of rules can be put
together and taken apart. The exception is that an empty `$or` holds, as the other
empty lists do: an `$or` of two lists has the answer of one `$or` over both just if
neither list is empty or the answer is yes, and it has its report just if also no
problem is met that an empty first list hides. -/
theorem deMorgan [PatternEngine] (document : Value) :
    (∀ rules : List Rule, Rule.SameFor document (.combined .nor rules)
      (.combined .and (rules.map .negated))) ∧
    (∀ rules : List Rule, rules ≠ [] → [.combined .or rules, (Rule.combined .nor rules).negated,
      (Rule.combined .and (rules.map .negated)).negated].Pairwise (Rule.SameFor document)) ∧
    (∀ c ∈ [Combinator.and, .or, .nor], (Rule.combined c []).evaluate document = ⟨true, []⟩) ∧
    (∀ r : Rule, [.combined .and [r], .combined .or [r], r].Pairwise (Rule.SameFor document)) ∧
    (∀ xs ys : List Rule, Rule.SameFor document (.combined .and (xs ++ ys))
      (.combined .and [.combined .and xs, .combined .and ys])) ∧
    ∀ xs ys : List Rule,
      let whole := (Rule.combined .or (xs ++ ys)).evaluate document
      let parts := (Rule.combined .or [.combined .or xs, .combined .or ys]).evaluate document
      whole.tooDeepCount = 0 → parts.tooDeepCount = 0 →
        (whole.holds = parts.holds ↔ (xs ≠ [] ∧ ys ≠ []) ∨ whole.holds) ∧
        (whole = parts ↔
          (xs ≠ [] ∧ ys ≠ []) ∨ whole.holds ∧ (xs = [] → whole.diagnostics = [])) := by
  refine ⟨?_, ?_, ?_, ?_, ?_, ?_⟩
  · intro rules
    exact .of_same ((Rule.same_nor rules document).trans (Rule.same_and_negated rules document).symm)
  · intro rules hr
    have hor := Rule.same_or document hr
    have hnor := Rule.same_negated (Rule.same_nor rules document)
    have hand := Rule.same_negated (Rule.same_and_negated rules document)
    rw [Outcome.not_not] at hnor hand
    have h₁ := hor.trans hnor.symm
    have h₂ := hor.trans hand.symm
    have h₃ := hnor.trans hand.symm
    simp [Rule.SameFor.of_same h₁, Rule.SameFor.of_same h₂, Rule.SameFor.of_same h₃]
  · intro c hc
    simp only [List.mem_cons, List.not_mem_nil, or_false] at hc
    rcases hc with rfl | rfl | rfl <;> rfl
  · intro r
    have hand : ((Rule.combined .and [r]).outcome document).Same (r.outcome document) := by
      simpa only [Checks.all, Outcome.andThen_true] using Rule.same_and [r] document
    have hor : ((Rule.combined .or [r]).outcome document).Same (r.outcome document) := by
      simpa only [Checks.any, Outcome.orElse_false] using
        Rule.same_or document (List.cons_ne_nil r [])
    have h := hand.trans hor.symm
    simp [Rule.SameFor.of_same hand, Rule.SameFor.of_same hor, Rule.SameFor.of_same h]
  · intro xs ys
    exact .of_same ((Rule.same_and _ document).trans (Rule.same_and_pair document xs ys).symm)
  · intro xs ys whole parts hw hp
    have fw := (Rule.combined .or (xs ++ ys)).evaluate_follows document
    have fp := (Rule.combined .or [.combined .or xs, .combined .or ys]).evaluate_follows document
    have ew : whole = ⟨_, _⟩ := fw.eq_of_tooDeepCount_eq_zero hw
    have ep : parts = ⟨_, _⟩ := fp.eq_of_tooDeepCount_eq_zero hp
    rw [fw.eq_iff_same fp hw hp, ew, ep]
    exact Rule.or_split xs ys document

/-- Two rules of which the first reports a problem and the second holds. The law
for an `$or` of two lists fails only of the problems if the first list is empty. -/
theorem deMorgan_reports :
    let r : Rule := ⟨[("a", .object [("$gtt", .null)])]⟩
    let s : Rule := ⟨[("a", .object [("$ne", .null)])]⟩
    let whole := (Rule.combined .or [r, s]).evaluate .null
    let parts := (Rule.combined .or [.combined .or [], .combined .or [r, s]]).evaluate .null
    (Rule.combined .nor [r, s]).evaluate .null =
        (Rule.combined .and [r.negated, s.negated]).evaluate .null ∧
      whole = (Rule.combined .nor [r, s]).negated.evaluate .null ∧
      (Rule.combined .and [.combined .and [s], .combined .and [r]]).evaluate .null =
        (Rule.combined .and [s, r]).evaluate .null ∧
      whole.tooDeepCount = 0 ∧ parts.tooDeepCount = 0 ∧ whole.holds = parts.holds ∧ whole ≠ parts := by
  intro r s whole parts
  obtain ⟨hnor, hor, -, -, hand, hsplit⟩ := deMorgan .null
  have hw : whole.tooDeepCount = 0 := by decide
  have hp : parts.tooDeepCount = 0 := by decide
  have hsame := List.rel_of_pairwise_cons (hor [r, s] (by simp)) List.mem_cons_self
  have hwhole := hsplit [] [r, s] hw hp
  refine ⟨hnor [r, s] (by decide) (by decide), hsame hw (by decide),
    (hand [s] [r] (by decide) (by decide)).symm, hw, hp, ?_, ?_⟩
  · exact hwhole.1.2 (.inr (by decide))
  · intro h
    rcases hwhole.2.1 h with ⟨hx, -⟩ | ⟨-, hproblems⟩
    · exact hx rfl
    · exact absurd (hproblems rfl) (by decide)

end Targeting

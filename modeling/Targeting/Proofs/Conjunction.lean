import Targeting.Proofs.Congruence
import Targeting.Proofs.Negation
/-!
# Conjunctions taken apart

The keys of a rule are tested one by one, and none depends on its siblings. So if
the keys are split between two rules, both must hold for the whole to hold, the
whole is refused for its nesting just if one of the parts is, and it reports what
the parts report (`conjunction_splits`). The operators of a condition are split in
the same way.
-/

namespace Targeting

/-! ## Keys and operators in two lists -/

theorem keys_append [PatternEngine] (xs ys : Fields) (document : Value) :
    Evaluation.keys outcomes (xs ++ ys) document =
      outcomes.both (Evaluation.keys outcomes xs document) (Evaluation.keys outcomes ys document) := by
  simp only [Evaluation.keys_eq_every, outcomes_lawful.every_append]

theorem operators_append [PatternEngine] (xs ys : Fields) (v : Option Value) :
    Evaluation.operators outcomes (xs ++ ys) v =
      outcomes.both (Evaluation.operators outcomes xs v) (Evaluation.operators outcomes ys v) := by
  simp only [Evaluation.operators_eq_every, outcomes_lawful.every_append]

/-! ## Reports -/

/-- Whether a report is what a conjunction makes of the reports of its two parts.
Nesting too deep is reported once if it is at all, and then the other problems are
not compared. -/
structure Report.Conjoins (whole a b : Report) : Prop where
  holds : whole.holds = (a.holds && b.holds)
  tooDeep : whole.tooDeepCount = max a.tooDeepCount b.tooDeepCount
  diagnostics : whole.tooDeepCount = 0 → whole.diagnostics.Perm (a.diagnostics ++ b.diagnostics)

/-- A conjunction that opens a level goes as deep as the deeper of its two parts
that each open a level of their own. -/
theorem Report.Follows.conjoins {whole a b : Report} {o p w : Outcome}
    (hw : whole.Follows (outcomes.enter w)) (ha : a.Follows (outcomes.enter o))
    (hb : b.Follows (outcomes.enter p)) (h : (outcomes.both o p).Agree w) : whole.Conjoins a b := by
  have hdeepest : (outcomes.enter w).deepest =
      max (outcomes.enter o).deepest (outcomes.enter p).deepest := by
    simp only [Outcome.deepest_enter, ← h.deepest, Outcome.deepest_both]
    omega
  refine ⟨?_, ?_, ?_⟩
  · -- a part that goes too deep holds of nothing by itself, and neither does the whole
    have hholds : w.holds = (o.holds && p.holds) := h.holds.symm
    rw [hw.holds_eq, ha.holds_eq, hb.holds_eq, hdeepest]
    simp only [Outcome.holds_enter, hholds, Nat.max_le, Bool.decide_and]
    cases o.holds <;> cases p.holds <;> simp
  · rw [hw.tooDeepCount, ha.tooDeepCount, hb.tooDeepCount, hdeepest]
    split_ifs <;> omega
  · -- within the limit all three are reported as they are
    intro h0
    have hd := hw.tooDeepCount_eq_zero_iff.1 h0
    rw [hdeepest, Nat.max_le] at hd
    rw [hw.eq_of_tooDeepCount_eq_zero h0, ha.within hd.1, hb.within hd.2]
    simpa using h.problems.symm

theorem conditionOutcome_operators [PatternEngine] {fields : Fields} (h : isOperatorObject fields) (v : Option Value) :
    conditionOutcome v (.object fields) = outcomes.enter (Evaluation.operators outcomes fields v) := by
  simp only [conditionOutcome, Evaluation.condition, h, if_true]

theorem isOperatorObject_append {xs ys : Fields} (hx : isOperatorObject xs) (hy : isOperatorObject ys) :
    isOperatorObject (xs ++ ys) := by
  simp only [isOperatorObject, Bool.and_eq_true, List.all_append] at hx hy ⊢
  refine ⟨?_, hx.2, hy.2⟩
  cases xs with
  | nil => cases hx.1
  | cons => rfl

variable {whole xs ys : Fields}

theorem Rule.evaluate_append [PatternEngine] (h : Reordered (.object (xs ++ ys)) (.object whole)) {d d' : Value}
    (hd : Reordered d d') :
    (evaluate ⟨whole⟩ d').Conjoins (evaluate ⟨xs⟩ d) (evaluate ⟨ys⟩ d) := by
  cases h with
  | object _ hp =>
    have hkeys := keys_agree sameness_eq (xs ++ ys) hp hd
    rw [keys_append] at hkeys
    exact (evaluate_follows ⟨whole⟩ d').conjoins (evaluate_follows ⟨xs⟩ d)
      (evaluate_follows ⟨ys⟩ d) hkeys

theorem matchCondition_append [PatternEngine] (hx : isOperatorObject xs) (hy : isOperatorObject ys)
    (h : Reordered (.object (xs ++ ys)) (.object whole)) {v v' : Option Value}
    (hv : Option.Rel Reordered v v') : (matchCondition v' (.object whole)).Conjoins
      (matchCondition v (.object xs)) (matchCondition v (.object ys)) := by
  cases h with
  | object _ hp =>
    have hw : isOperatorObject whole := isOperatorObject_eq hp ▸ isOperatorObject_append hx hy
    have hoperators := operators_agree sameness_eq (xs ++ ys) hp hv
    rw [operators_append] at hoperators
    have follows {fields : Fields} (ho : isOperatorObject fields) (u : Option Value) :=
      conditionOutcome_operators ho u ▸ matchCondition_follows u (.object fields)
    exact (follows hw v').conjoins (follows hx v) (follows hy v) hoperators

/-- A rule is the conjunction of any two rules without a common key between which
its keys are split; either may have none. A condition of operators is the
conjunction of any two such conditions. The orders in which the keys of the whole
and of its parts are visited, at any depth, do not count. -/
theorem conjunction_splits [PatternEngine] :
    (∀ (whole xs ys : Fields) (d d' : Value), Reordered (.object (xs ++ ys)) (.object whole) →
      Reordered d d' →
      (Rule.evaluate ⟨whole⟩ d').Conjoins (Rule.evaluate ⟨xs⟩ d) (Rule.evaluate ⟨ys⟩ d)) ∧
    ∀ (whole xs ys : Fields) (v v' : Option Value), isOperatorObject xs → isOperatorObject ys →
      Reordered (.object (xs ++ ys)) (.object whole) → Option.Rel Reordered v v' →
      (matchCondition v' (.object whole)).Conjoins (matchCondition v (.object xs))
        (matchCondition v (.object ys)) := by
  constructor
  · intro whole xs ys d d' h hd
    exact Rule.evaluate_append h hd
  · intro whole xs ys v v' hx hy h hv
    exact matchCondition_append hx hy h hv

/-- A key that nests too deep has a rule refused whatever its other key says, and
whichever comes first. The two operators of a condition report what each reports. -/
theorem conjunction_splits_refused :
    let deep : String × Value := ("a", Nat.repeat Value.negated 128 .null)
    let unknown : String × Value := ("b", .object [("$gtt", .null)])
    let ne : String × Value := ("$ne", .bool true)
    let regex : String × Value := ("$regex", .null)
    (Reordered (.object ([deep] ++ [unknown])) (.object [unknown, deep]) ∧ Reordered .null .null ∧
      (Rule.evaluate ⟨[unknown, deep]⟩ .null).Conjoins (Rule.evaluate ⟨[deep]⟩ .null)
        (Rule.evaluate ⟨[unknown]⟩ .null) ∧
      (Rule.evaluate ⟨[unknown, deep]⟩ .null).tooDeepCount = 1) ∧
    isOperatorObject [ne] ∧ isOperatorObject [regex] ∧
      Reordered (.object ([ne] ++ [regex])) (.object [regex, ne]) ∧ Option.Rel Reordered none none ∧
      (matchCondition none (.object [regex, ne])).Conjoins (matchCondition none (.object [ne]))
        (matchCondition none (.object [regex])) := by
  intro deep unknown ne regex
  have hdeep : ∀ n, Reordered (Nat.repeat Value.negated n .null) (Nat.repeat Value.negated n .null) := by
    intro n
    induction n with
    | zero => exact .null
    | succ n ih => exact .object (List.nodup_singleton _) (.cons ih .nil (.refl _))
  have hunknown : Reordered (.object [("$gtt", .null)]) (.object [("$gtt", .null)]) :=
    .object (List.nodup_singleton _) (.cons .null .nil (.refl _))
  have hkeys : Reordered (.object ([deep] ++ [unknown])) (.object [unknown, deep]) :=
    .object (by decide) (.cons (hdeep 128) (.cons hunknown .nil (.refl _)) (.swap ..))
  have hoperators : Reordered (.object ([ne] ++ [regex])) (.object [regex, ne]) :=
    .object (by decide) (.cons (.bool true) (.cons .null .nil (.refl _)) (.swap ..))
  have hne : isOperatorObject [ne] := by decide
  have hregex : isOperatorObject [regex] := by decide
  obtain ⟨hrules, hconditions⟩ := conjunction_splits
  exact ⟨⟨hkeys, .null, hrules _ _ _ _ _ hkeys .null, by decide +kernel⟩, hne, hregex, hoperators,
    .none, hconditions _ _ _ _ _ hne hregex hoperators .none⟩

end Targeting

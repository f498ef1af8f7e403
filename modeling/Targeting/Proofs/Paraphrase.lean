import Targeting.Proofs.Bounds
import Targeting.Proofs.Combinators
import Targeting.Proofs.PartialEquivalence
/-!
# One test written as a rule and as a condition

Negation and membership can be written with the combinators of rules and with the
operators of conditions. However the test of a path is negated, the report is the
same, also if nesting is too deep; and a list of rules that compare a path with
literals has the report of one rule that tests the path for the list
(`rule_and_condition_agree`). Only an empty list makes a difference: `$or` of none
holds, and nothing is in it.
-/

namespace Targeting

/-- The rule that tests one path for a condition. -/
def Rule.single (name : String) (c : Value) : Rule := ⟨[(name, c)]⟩

/-- The condition of one operator. -/
def Value.operation (op : Operator) (operand : Value) : Value := .object [(op.name, operand)]

/-! ## Tests of one path -/

theorem isOperatorKey_name (op : Operator) : isOperatorKey op.name := by
  cases op <;> decide

section
variable [PatternEngine] {χ : Type} {k : Checks χ} {name : String} {document : Value}

theorem Checks.Lawful.rule_path (h : k.Lawful) (hn : Combinator.ofName? name = none) (c : Value) :
    Evaluation.rule k (Rule.single name c).conditions document =
      k.enter (Evaluation.condition k c ((Path.ofText name).resolve document)) := by
  rw [Rule.single, h.rule_single]
  simp only [Evaluation.key, hn]

theorem Checks.Lawful.condition_operation (h : k.Lawful) (op : Operator) (operand : Value)
    (v : Option Value) : Evaluation.condition k (.operation op operand) v =
      k.enter (Evaluation.operator k (op.name, operand) v) :=
  h.condition_single (isOperatorKey_name op) operand v

end

/-! ## Negations -/

/-- A negation around a level has the report of a negation inside of it if both
stand in the first level: of two levels none is refused. Deeper down the checks
differ, where the answer does not count since the test is aborted. -/
theorem report_enter_not_enter (p : Check Progress) :
    let k := (limitedTo levelLimit).checks
    (k.enter (k.not (k.enter p))).report = (k.enter (k.enter (k.not p))).report := by
  simp [Check.report, Checks.not, Guard.checks, limitedTo, levelLimit]

namespace Rule

variable [PatternEngine] (name : String) (document c : Value)

theorem evaluate_negated_single (hn : Combinator.ofName? name = none) :
    (single name c).negated.evaluate document = (single name c.negated).evaluate document := by
  -- beyond the limit outcomes do not tell the report, so the guarded checks are compared
  have h := (limitedTo levelLimit).lawful
  rw [evaluate, evaluate, h.rule_negated, h.rule_path hn, h.rule_path hn, h.condition_negated]
  exact report_enter_not_enter _

theorem evaluate_nor_single : (combined .nor [single name c]).evaluate document =
    (single name c).negated.evaluate document := by
  have h := (limitedTo levelLimit).lawful
  rw [evaluate, evaluate, h.rule_negated, h.rule_nor, Checks.any, Checks.any, h.orElse_false]

end Rule

/-! ## Membership -/

/-- Whether a test opens no more than `n` levels and meets no problem. -/
structure Outcome.Silent (n : Nat) (o : Outcome) : Prop where
  deepest : o.deepest ≤ n
  problems : o.problems = []

theorem silent_bounded [PatternEngine] : outcomes.Bounded [] fun n o => o.Silent n where
  answer n b := ⟨by simp, by simp⟩
  next hp hf := by
    refine ⟨?_, ?_⟩
    · rw [Outcome.deepest_next, Nat.max_le]
      exact ⟨hp.deepest, (hf _).deepest⟩
    · rw [Outcome.problems_next, hp.problems, (hf _).problems, List.append_nil]
  enter hp := by
    refine ⟨?_, ?_⟩
    · rw [Outcome.deepest_enter]
      exact Nat.succ_le_succ hp.deepest
    · rw [Outcome.problems_enter, hp.problems]
  fail _ he _ := absurd he List.not_mem_nil

theorem Outcome.Silent.report_eq {o : Outcome} {n : Nat} (h : o.Silent n) (hn : n ≤ levelLimit)
    {report : Report} (hr : report.Follows o) : report = ⟨o.holds, []⟩ := by
  rw [hr.within (Nat.le_trans h.deepest hn), h.problems]

/-- A comparison of a path with literals, one after the other. -/
theorem any_literals [PatternEngine] {name : String} (hn : Combinator.ofName? name = none) (document : Value)
    {xs : List Value} (hx : ∀ x ∈ xs, x.isLiteral) :
    let v := (Path.ofText name).resolve document
    let o := outcomes.any (fun r => Evaluation.rule outcomes r.conditions document)
      (xs.map (Rule.single name))
    o.Silent 1 ∧ o.holds = xs.any (Value.equalIfPresent v) := by
  intro v o
  have ho : o = outcomes.any (fun x => outcomes.enter (outcomes.answer (Value.equalIfPresent v x))) xs := by
    -- a literal opens no level of its own, so each comparison opens that of its rule
    refine (Checks.any_map ..).trans ?_
    apply Checks.any_congr
    intro x hmem
    rw [outcomes_lawful.rule_path hn, Evaluation.condition_of_isLiteral outcomes (hx x hmem)]
  rw [ho]
  refine ⟨?_, ?_⟩
  · exact silent_bounded.any (fun x => silent_bounded.enter (silent_bounded.answer 0 _)) xs
  · rw [Outcome.holds_any]
    rfl

namespace Rule

variable [PatternEngine] {name : String} {document : Value}
  (hn : Combinator.ofName? name = none) {xs : List Value}
include hn

/-- A test of a path for one operator with a known answer. -/
theorem evaluate_operation {op : Operator} {operand : Value} {b : Bool}
    (ho : Evaluation.operator outcomes (op.name, operand) ((Path.ofText name).resolve document) =
      outcomes.answer b) :
    (single name (.operation op operand)).evaluate document = ⟨b, []⟩ := by
  have hf := (single name (.operation op operand)).evaluate_follows document
  rw [outcome, outcomes_lawful.rule_path hn, outcomes_lawful.condition_operation, ho] at hf
  have hs := silent_bounded.enter (silent_bounded.enter (silent_bounded.answer 0 b))
  exact hs.report_eq (by decide) hf

theorem evaluate_isIn (xs : List Value) :
    (single name (.operation .isIn (.array xs))).evaluate document =
      ⟨Value.isAmong ((Path.ofText name).resolve document) xs, []⟩ :=
  evaluate_operation hn rfl

theorem evaluate_notIn (xs : List Value) :
    (single name (.operation .notIn (.array xs))).evaluate document =
      ⟨!Value.isAmong ((Path.ofText name).resolve document) xs, []⟩ :=
  evaluate_operation hn rfl

theorem evaluate_nor_literals (hx : ∀ x ∈ xs, x.isLiteral) :
    (combined .nor (xs.map (single name))).evaluate document =
      ⟨!xs.any (Value.equalIfPresent ((Path.ofText name).resolve document)), []⟩ := by
  obtain ⟨hs, hholds⟩ := any_literals hn document hx
  have hf := (combined .nor (xs.map (single name))).evaluate_follows document
  rw [outcome, outcomes_lawful.rule_nor] at hf
  rw [(silent_bounded.enter (silent_bounded.not hs)).report_eq (by decide) hf, ← hholds]
  rfl

theorem evaluate_or_literals (hx : ∀ x ∈ xs, x.isLiteral) (hne : xs ≠ []) :
    (combined .or (xs.map (single name))).evaluate document =
      ⟨xs.any (Value.equalIfPresent ((Path.ofText name).resolve document)), []⟩ := by
  obtain ⟨hs, hholds⟩ := any_literals hn document hx
  have hf := (combined .or (xs.map (single name))).evaluate_follows document
  rw [outcome, outcomes_lawful.rule_or, if_neg (by simpa using hne)] at hf
  rw [(silent_bounded.enter hs).report_eq (by decide) hf, ← hholds]
  rfl

end Rule

/-! ## Agreement -/

/-- The test of a path is negated in three ways with the same report, however deep
the condition nests. That a value is in a list, or is not, is tested by one operator
with the same report as by a list of rules, if no item of the list would be read as
operators; for membership the list must not be empty, since an `$or` of none holds. -/
theorem rule_and_condition_agree [PatternEngine] {name : String} (hn : Combinator.ofName? name = none)
    (document : Value) :
    (∀ c : Value,
      (Rule.single name c).negated.evaluate document =
        (Rule.single name c.negated).evaluate document ∧
      (Rule.combined .nor [.single name c]).evaluate document =
        (Rule.single name c.negated).evaluate document) ∧
    (document.Keyed → ∀ xs : List Value, (Value.array xs).Keyed → (∀ x ∈ xs, x.isLiteral) →
      (Rule.single name (.operation .notIn (.array xs))).evaluate document =
        (Rule.combined .nor (xs.map (.single name))).evaluate document ∧
      (xs ≠ [] → (Rule.single name (.operation .isIn (.array xs))).evaluate document =
        (Rule.combined .or (xs.map (.single name))).evaluate document)) ∧
    (Rule.single name (.operation .isIn (.array []))).evaluate document = ⟨false, []⟩ ∧
    (Rule.combined .or []).evaluate document = ⟨true, []⟩ := by
  refine ⟨?_, ?_, ?_, rfl⟩
  · intro c
    have hnot := Rule.evaluate_negated_single name document c hn
    have hnor := Rule.evaluate_nor_single name document c
    exact ⟨hnot, hnor.trans hnot⟩
  · intro hd xs hk hx
    have hamong := isAmong_eq_any (keyed_of_resolve hd (Path.ofText name)) hk
    refine ⟨?_, ?_⟩
    · rw [Rule.evaluate_notIn hn, Rule.evaluate_nor_literals hn hx, hamong]
    · intro hne
      rw [Rule.evaluate_isIn hn, Rule.evaluate_or_literals hn hx hne, hamong]
  · rw [Rule.evaluate_isIn hn]
    cases (Path.ofText name).resolve document <;> rfl

/-- A condition that reaches the limit, so that all its negations are one level too
deep, and a list that has null, an object with a key that is no operator, and an
empty object. -/
theorem rule_and_condition_agree_at_limit :
    let deep : Value := Nat.repeat Value.negated 127 (.object [("$gtt", .null)])
    let xs : List Value := [.null, .object [("$gt", .null), ("gt", .null)], .object []]
    Combinator.ofName? "a.$nor" = none ∧
    ((Rule.single "a.$nor" deep).negated.evaluate .null =
        (Rule.single "a.$nor" deep.negated).evaluate .null ∧
      (Rule.combined .nor [.single "a.$nor" deep]).evaluate .null =
        (Rule.single "a.$nor" deep.negated).evaluate .null ∧
      ((Rule.single "a.$nor" deep.negated).evaluate .null).tooDeepCount = 1) ∧
    Value.null.Keyed ∧ (Value.array xs).Keyed ∧ (∀ x ∈ xs, x.isLiteral) ∧ xs ≠ [] ∧
      (Rule.single "a.$nor" (.operation .notIn (.array xs))).evaluate .null =
        (Rule.combined .nor (xs.map (.single "a.$nor"))).evaluate .null ∧
      (Rule.single "a.$nor" (.operation .isIn (.array xs))).evaluate .null =
        (Rule.combined .or (xs.map (.single "a.$nor"))).evaluate .null := by
  intro deep xs
  have hn : Combinator.ofName? "a.$nor" = none := rfl
  have hx : ∀ x ∈ xs, x.isLiteral := by simp [xs, Value.isLiteral, isOperatorObject, isOperatorKey]
  have hk : (Value.array xs).Keyed := by simp [xs, Value.Keyed, itemsKeyed, fieldsKeyed]
  have hne : xs ≠ [] := by simp [xs]
  obtain ⟨hnegations, hlists, -⟩ := rule_and_condition_agree hn .null
  obtain ⟨hnot, hnor⟩ := hnegations deep
  obtain ⟨hnotIn, hisIn⟩ := hlists trivial xs hk hx
  exact ⟨hn, ⟨hnot, hnor, by decide +kernel⟩, trivial, hk, hx, hne, hnotIn, hisIn hne⟩

end Targeting

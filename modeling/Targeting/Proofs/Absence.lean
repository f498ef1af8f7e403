import Targeting.Proofs.Conjunction
import Targeting.Proofs.Membership
/-!
# What an absent value meets

Of an absent value five operators can hold, and `$not` is the only one that asks a
condition about it. So the conditions that an absent value meets can be listed
(`absent_matches_iff`), up to a chain of negations that opens too many levels. Null is a
value: a condition that asks for null is not met by an absent value.
-/

namespace Targeting

/-! ## Chains of negations -/

mutual
/-- How many objects of operators follow one another at most, each the operand of `$not` in
the one before. -/
def Value.notChain : Value → Nat
  | .object fields => if isOperatorObject fields then fieldsNotChain fields + 1 else 0
  | _ => 0
termination_by structural c => c

def fieldsNotChain : List (String × Value) → Nat
  | [] => 0
  | f :: rest => max (fieldNotChain f) (fieldsNotChain rest)
termination_by structural fields => fields

def fieldNotChain : String × Value → Nat
  | (name, operand) => if name = Operator.not.name then operand.notChain else 0
termination_by structural f => f
end

theorem fieldNotChain_le {fields : Fields} {f : String × Value} (hf : f ∈ fields) :
    fieldNotChain f ≤ fieldsNotChain fields := by
  induction fields with
  | nil => cases hf
  | cons g rest ih =>
    rw [fieldsNotChain]
    rcases List.mem_cons.1 hf with rfl | hf
    · exact Nat.le_max_left ..
    · exact Nat.le_trans (ih hf) (Nat.le_max_right ..)

/-! ## Operators of an absent value -/

theorem Operator.exists_name_eq_iff {op : Operator} {P : Operator → Prop} :
    (∃ op' : Operator, op.name = op'.name ∧ P op') ↔ P op := by
  constructor
  · rintro ⟨op', hop, h⟩
    rw [← Operator.ofName?_eq_some_iff, Operator.ofName?_eq_some_iff.2 rfl] at hop
    cases hop
    exact h
  · intro h
    exact ⟨op, rfl, h⟩

theorem Kind.ofName?_eq_some_iff {name : String} {kind : Kind} :
    Kind.ofName? name = some kind ↔ name = kind.name := by
  constructor
  · intro h
    unfold Kind.ofName? at h
    split at h <;> cases h <;> rfl
  · rintro rfl
    cases kind <;> rfl

/-- Null, false, the zeros, the NaNs and the empty string. -/
inductive Value.Falsy : Value → Prop
  | null : Falsy .null
  | false : Falsy (.bool false)
  | zero {x : Binary64} : x.isZero → Falsy (.number x)
  | nan {x : Binary64} : x.isNaN → Falsy (.number x)
  | empty : Falsy (.string "")

theorem Value.asksForPresence_eq_false_iff {c : Value} : c.asksForPresence = false ↔ c.Falsy := by
  constructor
  · intro h
    cases c with
    | null => exact .null
    | bool b =>
      cases (h : b = false)
      exact .false
    | number x =>
      simp only [asksForPresence, isTruthy, Bool.and_eq_false_iff, Bool.not_eq_false'] at h
      rcases h with h | h
      · exact .zero h
      · exact .nan h
    | string s =>
      obtain rfl : s = "" := by simpa [asksForPresence, isTruthy] using h
      exact .empty
    | array | object => cases h
  · intro h
    cases h with
    | zero h | nan h => simp [asksForPresence, isTruthy, h]
    | _ => rfl

/-- Whether an absent value meets an operator with an operand. -/
inductive Operator.MeetsAbsent [PatternEngine] : Operator → Value → Prop
  | ne (operand : Value) : MeetsAbsent .ne operand
  | notIn (candidates : List Value) : MeetsAbsent .notIn (.array candidates)
  | exists {operand : Value} : operand.Falsy → MeetsAbsent .exists operand
  | type : MeetsAbsent .type (.string "undefined")
  | not {operand : Value} : ¬(matchCondition none operand).holds → MeetsAbsent .not operand

namespace Evaluation

section
variable [PatternEngine] {op : Operator} (hop : op ≠ .not) (operand : Value)
include hop

/-- An operator other than `$not` opens no level for an absent value. -/
theorem deepest_operator_of_ne_not : (operator outcomes (op.name, operand) none).deepest = 0 := by
  cases op with
  | not => exact absurd rfl hop
  | regex | isIn | notIn | all => cases operand <;> rfl
  | _ => rfl

theorem holds_operator_of_ne_not :
    (operator outcomes (op.name, operand) none).holds ↔ op.MeetsAbsent operand := by
  cases op with
  | not => exact absurd rfl hop
  | ne => exact iff_of_true rfl (.ne operand)
  | isIn =>
    refine iff_of_false ?_ nofun
    cases operand <;> exact Bool.false_ne_true
  | notIn =>
    cases operand with
    | array candidates => exact iff_of_true rfl (.notIn candidates)
    | _ => exact iff_of_false Bool.false_ne_true nofun
  | «exists» =>
    have ho : operator outcomes (Operator.exists.name, operand) none =
        outcomes.answer (false == operand.asksForPresence) := rfl
    rw [ho, Outcome.holds_answer, beq_iff_eq, eq_comm, Value.asksForPresence_eq_false_iff]
    exact ⟨.exists, fun | .exists h => h⟩
  | type =>
    cases operand with
    | string s =>
      have ho : operator outcomes (Operator.type.name, .string s) none =
          outcomes.answer (Kind.ofName? s == some .undefined) := rfl
      rw [ho, Outcome.holds_answer, beq_iff_eq, Kind.ofName?_eq_some_iff]
      exact ⟨fun h => h ▸ .type, fun | .type => rfl⟩
    | _ => exact iff_of_false Bool.false_ne_true nofun
  | regex | all => cases operand <;> exact iff_of_false Bool.false_ne_true nofun
  | _ => exact iff_of_false Bool.false_ne_true nofun

end

/-! ## Levels opened for an absent value -/

section
variable [PatternEngine]

mutual
theorem deepest_condition_absent : ∀ c : Value, (condition outcomes c none).deepest = c.notChain
  | .object fields => by
    simp only [condition, Value.notChain]
    split
    · rw [Outcome.deepest_enter, deepest_operators_absent fields]
    · rfl
  | .null | .bool _ | .number _ | .string _ | .array _ => rfl
termination_by structural c => c

theorem deepest_operators_absent : ∀ fields : Fields,
    (operators outcomes fields none).deepest = fieldsNotChain fields
  | [] => rfl
  | f :: rest => by
    rw [operators, Outcome.deepest_both, deepest_operator_absent f, deepest_operators_absent rest,
      fieldsNotChain]
termination_by structural fields => fields

theorem deepest_operator_absent : ∀ f : String × Value,
    (operator outcomes f none).deepest = fieldNotChain f
  | (name, operand) => by
    rw [fieldNotChain]
    split
    · next hn =>
      subst hn
      have ho : operator outcomes (Operator.not.name, operand) none =
          outcomes.not (condition outcomes operand none) := rfl
      rw [ho, Outcome.deepest_not, deepest_condition_absent operand]
    · next hn =>
      cases hop : Operator.ofName? name with
      | none =>
        rw [operator_of_unknown outcomes hop]
        rfl
      | some op =>
        rw [Operator.ofName?_eq_some_iff] at hop
        subst hop
        exact deepest_operator_of_ne_not (fun h => hn (h ▸ rfl)) operand
termination_by structural f => f
end

end

end Evaluation

/-! ## Conditions of an absent value -/

section
variable [PatternEngine]

theorem holds_matchCondition_absent (c : Value) : (matchCondition none c).holds =
    ((Evaluation.condition outcomes c none).holds && decide (c.notChain ≤ levelLimit)) := by
  rw [(matchCondition_follows none c).holds_eq, conditionOutcome, Evaluation.deepest_condition_absent]

theorem holds_not_absent_iff {operand : Value} (hchain : operand.notChain ≤ levelLimit) :
    (Evaluation.operator outcomes (Operator.not.name, operand) none).holds ↔
      Operator.not.MeetsAbsent operand := by
  have ho : Evaluation.operator outcomes (Operator.not.name, operand) none =
      outcomes.not (Evaluation.condition outcomes operand none) := rfl
  have hholds := holds_matchCondition_absent operand
  rw [decide_eq_true hchain, Bool.and_true] at hholds
  rw [ho, Outcome.holds_not, ← hholds, Bool.not_eq_true', ← Bool.not_eq_true]
  exact ⟨.not, fun | .not h => h⟩

/-- An absent value meets an operator just if it is listed, as long as the chain of negations
under the operator is not refused. -/
theorem holds_operator_absent_iff {name : String} {operand : Value}
    (hchain : fieldNotChain (name, operand) ≤ levelLimit) :
    (Evaluation.operator outcomes (name, operand) none).holds ↔
      ∃ op : Operator, name = op.name ∧ op.MeetsAbsent operand := by
  cases hn : Operator.ofName? name with
  | none =>
    rw [Evaluation.operator_of_unknown outcomes hn]
    refine iff_of_false Bool.false_ne_true ?_
    rintro ⟨op, hop, -⟩
    rw [← Operator.ofName?_eq_some_iff, hn] at hop
    cases hop
  | some op =>
    obtain rfl := Operator.ofName?_eq_some_iff.1 hn
    rw [Operator.exists_name_eq_iff]
    by_cases hnot : op = .not
    · subst hnot
      rw [fieldNotChain, if_pos rfl] at hchain
      exact holds_not_absent_iff hchain
    · exact Evaluation.holds_operator_of_ne_not hnot operand

theorem matchCondition_absent_iff {c : Value} (hchain : c.notChain ≤ levelLimit) :
    (matchCondition none c).holds ↔ ∃ fields, c = .object fields ∧ isOperatorObject fields ∧
      ∀ f ∈ fields, ∃ op : Operator, f.1 = op.name ∧ op.MeetsAbsent f.2 := by
  by_cases hc : c.isLiteral
  · rw [matchCondition_literal none hc]
    refine iff_of_false Bool.false_ne_true ?_
    rintro ⟨fields, rfl, hfields, -⟩
    simp [Value.isLiteral, hfields] at hc
  · cases c with
    | object fields =>
      have hfields : isOperatorObject fields := by simpa [Value.isLiteral] using hc
      rw [holds_matchCondition_absent, decide_eq_true hchain, Bool.and_true, Evaluation.condition,
        if_pos hfields, Outcome.holds_enter, Evaluation.operators_eq_every, Outcome.holds_every,
        List.all_eq_true]
      rw [Value.notChain, if_pos hfields] at hchain
      have hoperators : (∀ f ∈ fields, (Evaluation.operator outcomes f none).holds = true) ↔
          ∀ f ∈ fields, ∃ op : Operator, f.1 = op.name ∧ op.MeetsAbsent f.2 := by
        refine forall₂_congr fun f hf => holds_operator_absent_iff ?_
        exact Nat.le_trans (fieldNotChain_le hf) (by omega)
      rw [hoperators]
      constructor
      · intro h
        exact ⟨fields, rfl, hfields, h⟩
      · rintro ⟨_, ⟨⟩, -, h⟩
        exact h
    | _ => exact absurd rfl hc

theorem matchCondition_absent_of_notChain {c : Value} (hchain : levelLimit < c.notChain) :
    (matchCondition none c).holds = false := by
  rw [holds_matchCondition_absent, decide_eq_false (by omega), Bool.and_false]

/-- The operators that hold of no absent value, however deep their operands are. -/
theorem matchCondition_absent_of_mem {op : Operator} {operand : Value}
    (hop : ¬op.MeetsAbsent operand) {fields : Fields} (hf : (op.name, operand) ∈ fields) :
    (matchCondition none (.object fields)).holds = false := by
  by_cases hchain : (Value.object fields).notChain ≤ levelLimit
  · rw [Bool.eq_false_iff]
    intro hholds
    obtain ⟨_, ⟨⟩, -, hall⟩ := (matchCondition_absent_iff hchain).1 hholds
    exact hop (Operator.exists_name_eq_iff.1 (hall _ hf))
  · exact matchCondition_absent_of_notChain (by omega)

/-- Which conditions an absent value meets: objects of operators all of which are listed. If a
chain of negations is longer than levels may be open, the condition is not met, whatever the
number of negations is. No literal is met, null included, and nothing with an operator that
compares, orders, searches or looks at items, whatever its operand is. -/
theorem absent_matches_iff :
    (∀ c : Value, c.notChain ≤ levelLimit → ((matchCondition none c).holds ↔
      ∃ fields, c = .object fields ∧ isOperatorObject fields ∧
        ∀ f ∈ fields, ∃ op : Operator, f.1 = op.name ∧ op.MeetsAbsent f.2)) ∧
    (∀ c : Value, levelLimit < c.notChain → (matchCondition none c).holds = false) ∧
    (∀ c : Value, c.isLiteral → (matchCondition none c).holds = false) ∧
    ∀ op ∈ [Operator.eq, .gt, .gte, .lt, .lte, .regex, .isIn, .size, .elemMatch, .all],
      ∀ (operand : Value) (fields : Fields), (op.name, operand) ∈ fields →
        (matchCondition none (.object fields)).holds = false := by
  refine ⟨fun _ => matchCondition_absent_iff, fun _ => matchCondition_absent_of_notChain, ?_, ?_⟩
  · intro c hc
    rw [matchCondition_literal none hc]
    rfl
  · intro op hop operand fields hf
    refine matchCondition_absent_of_mem ?_ hf
    rintro (_ | _ | _ | _ | _) <;> simp at hop

end

/-- Operators that an absent value meets, the longest chain of negations of them, which is not met
since it negates an odd number of times, and a chain of one negation more. -/
theorem absent_matches_iff_at_limit :
    let met : Fields := [("$ne", .null), ("$nin", .array [.null]), ("$exists", .number .nan),
      ("$type", .string "undefined")]
    let longest : Value := Nat.repeat Value.negated 127 (.object met)
    let elemMatch : Fields := ("$elemMatch", longest.negated) :: met
    ((Value.object met).notChain ≤ levelLimit ∧ (matchCondition none (.object met)).holds) ∧
    (longest.notChain = levelLimit ∧ matchCondition none longest = ⟨false, []⟩) ∧
    (levelLimit < longest.negated.notChain ∧ (matchCondition none longest.negated).holds = false) ∧
    (Value.null.isLiteral ∧ (matchCondition none .null).holds = false) ∧
    Operator.elemMatch ∈ [Operator.eq, .gt, .gte, .lt, .lte, .regex, .isIn, .size, .elemMatch, .all] ∧
      (Operator.elemMatch.name, longest.negated) ∈ elemMatch ∧
      (matchCondition none (.object elemMatch)).holds = false := by
  intro met longest elemMatch
  obtain ⟨hiff, hlong, hliteral, hnever⟩ := absent_matches_iff
  have hmet : (Value.object met).notChain ≤ levelLimit := by decide
  have hbeyond : levelLimit < longest.negated.notChain := by decide +kernel
  have hall : ∀ f ∈ met, ∃ op : Operator, f.1 = op.name ∧ op.MeetsAbsent f.2 := by
    simp only [met, List.forall_mem_cons]
    exact ⟨⟨.ne, rfl, .ne _⟩, ⟨.notIn, rfl, .notIn _⟩, ⟨.exists, rfl, .exists (.nan (by decide))⟩,
      ⟨Operator.type, rfl, .type⟩, List.forall_mem_nil _⟩
  refine ⟨⟨hmet, (hiff _ hmet).2 ⟨met, rfl, by decide, hall⟩⟩, ⟨?_, ?_⟩,
    ⟨hbeyond, hlong _ hbeyond⟩, ⟨rfl, hliteral _ rfl⟩, by decide, List.mem_cons_self, ?_⟩
  · decide +kernel
  · decide +kernel
  · exact hnever .elemMatch (by decide) _ elemMatch List.mem_cons_self

end Targeting

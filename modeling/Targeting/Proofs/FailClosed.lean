import Mathlib.Algebra.Ring.Parity
import Targeting.Proofs.Congruence
import Targeting.Proofs.Shapes
/-!
# Broken entries fail closed

An entry that is broken does not hold. If it lies under an even number of
negations, a rule can only lose matches by it, and if under an odd number, only
gain them (`evaluate_failsClosed`).
-/

namespace Targeting

/-! ## Broken entries -/

mutual
/-- `RuleBroken n r s`: the rule `s` is `r` with one entry broken that lies under
`n` negations. The keys may be visited in any order. -/
inductive RuleBroken : Nat → Fields → Fields → Prop
  | key {n : Nat} {f g : String × Value} {rest r s : Fields} :
    KeyBroken n f g → r.Perm (f :: rest) → s.Perm (g :: rest) → RuleBroken n r s

/-- A key of a rule: a combinator holds what it does not take, or the entry lies
further inside. -/
inductive KeyBroken : Nat → String × Value → String × Value → Prop
  | malformed {name : String} {combinator : Combinator} {c c' : Value} :
    Combinator.ofName? name = some combinator → combinator.accepts c' = false →
    KeyBroken 0 (name, c) (name, c')
  | and {n : Nat} {r s : Fields} (before after : List Value) : RuleBroken n r s →
    KeyBroken n ("$and", .array (before ++ .object r :: after))
      ("$and", .array (before ++ .object s :: after))
  | or {n : Nat} {r s : Fields} (before after : List Value) : RuleBroken n r s →
    KeyBroken n ("$or", .array (before ++ .object r :: after))
      ("$or", .array (before ++ .object s :: after))
  | nor {n : Nat} {r s : Fields} (before after : List Value) : RuleBroken n r s →
    KeyBroken (n + 1) ("$nor", .array (before ++ .object r :: after))
      ("$nor", .array (before ++ .object s :: after))
  | not {n : Nat} {r s : Fields} : RuleBroken n r s →
    KeyBroken (n + 1) ("$not", .object r) ("$not", .object s)
  | path {n : Nat} {name : String} {c c' : Value} : Combinator.ofName? name = none →
    ConditionBroken n c c' → KeyBroken n (name, c) (name, c')

inductive ConditionBroken : Nat → Value → Value → Prop
  | operator {n : Nat} {f g : String × Value} {rest r s : Fields} : isOperatorObject r →
    OperatorBroken n f g → r.Perm (f :: rest) → s.Perm (g :: rest) →
    ConditionBroken n (.object r) (.object s)

/-- An operator of a condition: it has an operand that it does not take, it gets
a name that is none, or the entry lies further inside. -/
inductive OperatorBroken : Nat → String × Value → String × Value → Prop
  | malformed {name : String} {op : Operator} {c c' : Value} :
    Operator.ofName? name = some op → op.accepts c' = false →
    OperatorBroken 0 (name, c) (name, c')
  | unknown {name name' : String} {c : Value} : isOperatorKey name' →
    Operator.ofName? name' = none → OperatorBroken 0 (name, c) (name', c)
  | not {n : Nat} {c c' : Value} : ConditionBroken n c c' →
    OperatorBroken (n + 1) ("$not", c) ("$not", c')
  | size {n : Nat} {c c' : Value} : ConditionBroken n c c' →
    OperatorBroken n ("$size", c) ("$size", c')
  | itemCondition {n : Nat} {c c' : Value} : ConditionBroken n c c' →
    OperatorBroken n ("$elemMatch", c) ("$elemMatch", c')
  | itemRule {n : Nat} {r s : Fields} : isOperatorObject r = false → RuleBroken n r s →
    OperatorBroken n ("$elemMatch", .object r) ("$elemMatch", .object s)
  | all {n : Nat} {c c' : Value} (before after : List Value) : ConditionBroken n c c' →
    OperatorBroken n ("$all", .array (before ++ c :: after))
      ("$all", .array (before ++ c' :: after))
end

/-! ## Answers -/

/-- Whether an answer `b` in place of `a`, for an entry under `n` negations, is on
the safe side. -/
structure FailsClosed (n : Nat) (a b : Bool) : Prop where
  even : Even n → b → a
  odd : Odd n → a → b

namespace FailsClosed

variable {n : Nat} {a a' b b' : Bool}

theorem refl (n : Nat) (a : Bool) : FailsClosed n a a := ⟨fun _ h => h, fun _ h => h⟩

theorem of_false (a : Bool) : FailsClosed 0 a false := ⟨fun _ h => (by cases h), by simp⟩

theorem not (h : FailsClosed n a b) : FailsClosed (n + 1) (!a) (!b) where
  even he hb := by
    have := h.odd (Nat.not_even_iff_odd.1 (Nat.even_add_one.1 he))
    cases a <;> simp_all
  odd ho ha := by
    have := h.even (Nat.not_odd_iff_even.1 (Nat.odd_add_one.1 ho))
    cases b <;> simp_all

theorem and (h : FailsClosed n a b) (h' : FailsClosed n a' b') : FailsClosed n (a && a') (b && b') where
  even he hb := by
    simp only [Bool.and_eq_true] at hb ⊢
    exact ⟨h.even he hb.1, h'.even he hb.2⟩
  odd ho ha := by
    simp only [Bool.and_eq_true] at ha ⊢
    exact ⟨h.odd ho ha.1, h'.odd ho ha.2⟩

theorem or (h : FailsClosed n a b) (h' : FailsClosed n a' b') : FailsClosed n (a || a') (b || b') where
  even he hb := by
    simp only [Bool.or_eq_true] at hb ⊢
    exact hb.imp (h.even he) (h'.even he)
  odd ho ha := by
    simp only [Bool.or_eq_true] at ha ⊢
    exact ha.imp (h.odd ho) (h'.odd ho)

variable {α : Type}

theorem any {s t : α → Bool} (h : ∀ x, FailsClosed n (s x) (t x)) (xs : List α) :
    FailsClosed n (xs.any s) (xs.any t) := by
  induction xs with
  | nil => exact refl n false
  | cons x xs ih => exact (h x).or ih

end FailsClosed

/-! ## Rules and conditions -/

theorem KeyBroken.name_eq {n : Nat} {f g : String × Value} (h : KeyBroken n f g) : f.1 = g.1 := by
  cases h <;> rfl

theorem isOperatorObject_perm {r s : Fields} (h : r.Perm s) : isOperatorObject r = isOperatorObject s :=
  isOperatorObject_of_keys_perm (h.map Prod.fst)

/-- A rule is still read as a rule once an entry in it is broken. -/
theorem RuleBroken.isOperatorObject_eq {n : Nat} {r s : Fields} (h : RuleBroken n r s) :
    isOperatorObject r = isOperatorObject s := by
  obtain ⟨hf, hr, hs⟩ := h
  rw [isOperatorObject_perm hr, isOperatorObject_perm hs]
  simp [isOperatorObject, hf.name_eq]

theorem OperatorBroken.isOperatorKey {n : Nat} {f g : String × Value} (h : OperatorBroken n f g)
    (hf : isOperatorKey f.1) : Targeting.isOperatorKey g.1 := by
  cases h with
  | unknown hg _ => exact hg
  | _ => exact hf

/-- A condition is still one of operators once an entry in it is broken. -/
theorem OperatorBroken.isOperatorObject {n : Nat} {f g : String × Value} {rest r s : Fields}
    (h : OperatorBroken n f g) (hr : r.Perm (f :: rest)) (hs : s.Perm (g :: rest))
    (ho : isOperatorObject r) : Targeting.isOperatorObject s := by
  rw [isOperatorObject_perm hr] at ho
  rw [isOperatorObject_perm hs]
  simp only [Targeting.isOperatorObject, List.isEmpty_cons, List.all_cons, Bool.and_eq_true] at ho ⊢
  exact ⟨rfl, h.isOperatorKey ho.2.1, ho.2.2⟩

theorem ConditionBroken.element_eq [PatternEngine] {n : Nat} {c c' : Value} (h : ConditionBroken n c c') (item : Value) :
    Evaluation.element outcomes c item = Evaluation.condition outcomes c (some item) := by
  obtain ⟨ho, _, _, _⟩ := h
  simp [Evaluation.element, Evaluation.condition, ho]

theorem ConditionBroken.element_eq' [PatternEngine] {n : Nat} {c c' : Value} (h : ConditionBroken n c c') (item : Value) :
    Evaluation.element outcomes c' item = Evaluation.condition outcomes c' (some item) := by
  obtain ⟨ho, hf, hr, hs⟩ := h
  simp [Evaluation.element, Evaluation.condition, hf.isOperatorObject hr hs ho]

theorem all_isObject_append_cons (before after : List Value) (r s : Fields) :
    (before ++ .object r :: after).all Value.isObject =
      (before ++ .object s :: after).all Value.isObject := by
  simp [Value.isObject, Value.asObject?]

theorem onItems_failsClosed {n : Nat} (v : Option Value) {s t : List Value → Outcome}
    (h : ∀ items, FailsClosed n (s items).holds (t items).holds) :
    FailsClosed n (Evaluation.onItems outcomes v s).holds (Evaluation.onItems outcomes v t).holds := by
  unfold Evaluation.onItems
  split
  · exact h _
  · exact .refl _ _

section
variable [PatternEngine] {n : Nat} {r s : Fields} {document : Value} (before after : List Value)

theorem everyRule_failsClosed (h : FailsClosed n (Evaluation.keys outcomes r document).holds
    (Evaluation.keys outcomes s document).holds) :
    FailsClosed n (Evaluation.everyRule outcomes (before ++ .object r :: after) document).holds
      (Evaluation.everyRule outcomes (before ++ .object s :: after) document).holds := by
  simp only [Evaluation.everyRule_eq_all, Outcome.holds_all, List.all_append, List.all_cons]
  exact (FailsClosed.refl n _).and (.and h (.refl n _))

theorem someRule_failsClosed (h : FailsClosed n (Evaluation.keys outcomes r document).holds
    (Evaluation.keys outcomes s document).holds) :
    FailsClosed n (Evaluation.someRule outcomes (before ++ .object r :: after) document).holds
      (Evaluation.someRule outcomes (before ++ .object s :: after) document).holds := by
  simp only [Evaluation.someRule_eq_any, Outcome.holds_any, List.any_append, List.any_cons]
  exact (FailsClosed.refl n _).or (.or h (.refl n _))

end

section
variable [PatternEngine]

mutual
theorem rule_failsClosed {n : Nat} {r s : Fields} : RuleBroken n r s → ∀ document : Value,
    FailsClosed n (Evaluation.keys outcomes r document).holds
      (Evaluation.keys outcomes s document).holds
  | .key hf hr hs, document => by
    rw [(keys_perm hr document).holds, (keys_perm hs document).holds]
    exact (key_failsClosed hf document).and (.refl _ _)
termination_by structural h => h

theorem key_failsClosed {n : Nat} {f g : String × Value} : KeyBroken n f g → ∀ document : Value,
    FailsClosed n (Evaluation.key outcomes f document).holds
      (Evaluation.key outcomes g document).holds
  | .malformed hn hc, document => by
    rw [Evaluation.key_of_not_accepts outcomes hn hc]
    exact .of_false _
  | @KeyBroken.and _ r s before after h, document => by
    have hl := everyRule_failsClosed before after (rule_failsClosed h document)
    simp only [Evaluation.key, Combinator.ofName?, Evaluation.allOf, all_isObject_append_cons _ _ r s]
    split
    · exact hl
    · exact .refl _ _
  | @KeyBroken.or _ r s before after h, document => by
    have hl := someRule_failsClosed before after (rule_failsClosed h document)
    have he (t : Fields) : (before ++ .object t :: after).isEmpty = false := by simp
    simp only [Evaluation.key, Combinator.ofName?, Evaluation.anyOf, all_isObject_append_cons _ _ r s, he]
    split
    · exact hl
    · exact .refl _ _
  | @KeyBroken.nor _ r s before after h, document => by
    have hl := someRule_failsClosed before after (rule_failsClosed h document)
    simp only [Evaluation.key, Combinator.ofName?, Evaluation.noneOf, all_isObject_append_cons _ _ r s]
    split
    · exact hl.not
    · exact .refl _ _
  | .not h, document => (rule_failsClosed h document).not
  | .path hn h, document => by
    simp only [Evaluation.key, hn]
    exact condition_failsClosed h _
termination_by structural h => h

theorem condition_failsClosed {n : Nat} {c c' : Value} : ConditionBroken n c c' →
    ∀ v : Option Value, FailsClosed n (Evaluation.condition outcomes c v).holds
      (Evaluation.condition outcomes c' v).holds
  | .operator ho hf hr hs, v => by
    simp only [Evaluation.condition, ho, hf.isOperatorObject hr hs ho, if_true, Outcome.holds_enter]
    rw [(operators_perm hr v).holds, (operators_perm hs v).holds]
    exact (operator_failsClosed hf v).and (.refl _ _)
termination_by structural h => h

theorem operator_failsClosed {n : Nat} {f g : String × Value} : OperatorBroken n f g →
    ∀ v : Option Value, FailsClosed n (Evaluation.operator outcomes f v).holds
      (Evaluation.operator outcomes g v).holds
  | .malformed hn hc, v => by
    rw [Evaluation.operator_of_not_accepts outcomes hn hc]
    exact .of_false _
  | .unknown _ hn, v => by
    rw [Evaluation.operator_of_unknown outcomes hn]
    exact .of_false _
  | .not h, v => (condition_failsClosed h v).not
  | .size h, v => onItems_failsClosed v fun _ => condition_failsClosed h _
  | .itemCondition h, v => onItems_failsClosed v fun items => by
    simp only [Outcome.holds_any, h.element_eq, h.element_eq']
    exact .any (fun item => condition_failsClosed h (some item)) items
  | .itemRule ho h, v => onItems_failsClosed v fun items => by
    have hs := h.isOperatorObject_eq.symm.trans ho
    simp only [Outcome.holds_any]
    refine .any (fun item => ?_) items
    simp only [Evaluation.element, ho, hs, Bool.false_eq_true, if_false]
    split
    · exact rule_failsClosed h item
    · next hi =>
      rw [equal_object_of_not_isObject (by simpa using hi), equal_object_of_not_isObject (by simpa using hi)]
      exact .refl _ _
  | .all before after h, v => onItems_failsClosed v fun items => by
    simp only [Evaluation.hasItems_eq_all, Outcome.holds_all, Outcome.holds_any, List.all_append,
      List.all_cons]
    exact (FailsClosed.refl n _).and (.and (.any (fun item => condition_failsClosed h (some item)) items)
      (.refl n _))
termination_by structural h => h
end

end

/-- A rule with a broken entry under an even number of negations matches only
what it matched before, and with one under an odd number all that it matched
before. -/
theorem evaluate_failsClosed [PatternEngine] {n : Nat} {r s : Rule} (h : RuleBroken n r.conditions s.conditions)
    (document : Value) (hr : (r.evaluate document).tooDeepCount = 0)
    (hs : (s.evaluate document).tooDeepCount = 0) :
    FailsClosed n (r.evaluate document).holds (s.evaluate document).holds := by
  rw [(r.evaluate_follows document).eq_of_tooDeepCount_eq_zero hr,
    (s.evaluate_follows document).eq_of_tooDeepCount_eq_zero hs]
  exact rule_failsClosed h document

/-- An operand of `$in` that is no list makes the rule around it match, since it
lies under one negation. -/
theorem evaluate_failsClosed_not_in :
    let original : Rule := ⟨[("$not", .object [("n", .object [("$in", .array [.null])])])]⟩
    let broken : Rule := ⟨[("$not", .object [("n", .object [("$in", .null)])])]⟩
    let document : Value := .object [("n", .null)]
    RuleBroken 1 original.conditions broken.conditions ∧
      (original.evaluate document).tooDeepCount = 0 ∧ (broken.evaluate document).tooDeepCount = 0 ∧
      FailsClosed 1 (original.evaluate document).holds (broken.evaluate document).holds := by
  intro original broken document
  have inside : OperatorBroken 0 ("$in", .array [.null]) ("$in", .null) := .malformed rfl rfl
  have condition : ConditionBroken 0 (.object [("$in", .array [.null])]) (.object [("$in", .null)]) :=
    .operator rfl inside (.refl _) (.refl _)
  have key : KeyBroken 0 ("n", .object [("$in", .array [.null])]) ("n", .object [("$in", .null)]) :=
    .path rfl condition
  have rule : RuleBroken 1 original.conditions broken.conditions :=
    .key (.not (.key key (.refl _) (.refl _))) (.refl _) (.refl _)
  have ho : (original.evaluate document).tooDeepCount = 0 := by decide
  have hb : (broken.evaluate document).tooDeepCount = 0 := by decide
  exact ⟨rule, ho, hb, evaluate_failsClosed rule document ho hb⟩

end Targeting

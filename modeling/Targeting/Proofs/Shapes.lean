import Targeting.Evaluation
/-!
# Shapes of operands

What combinators and operators take, and that one which holds something else
reports that and nothing more, whatever the document or the value is. A condition
that is no object of operators is a literal, and compared; only `$elemMatch` reads
such an object as a rule.
-/

namespace Targeting

/-- Whether a combinator takes a value: `$not` takes a rule, and the others take
lists of rules. -/
def Combinator.accepts : Combinator → Value → Bool
  | .not, c => c.isObject
  | _, .array rules => rules.all Value.isObject
  | _, _ => false

/-- Whether an operator takes a value; most take any. -/
def Operator.accepts : Operator → Value → Bool
  | .regex, c => c.asString?.isSome
  | .isIn, c | .notIn, c | .all, c => c.asArray?.isSome
  | _, _ => true

theorem Operator.ofName?_eq_some_iff {name : String} {op : Operator} :
    Operator.ofName? name = some op ↔ name = op.name := by
  constructor
  · intro h
    unfold Operator.ofName? at h
    split at h <;> cases h <;> rfl
  · rintro rfl
    cases op <;> rfl

/-- Whether a condition is a literal: anything but an object of operators. -/
def Value.isLiteral : Value → Bool
  | .object fields => !isOperatorObject fields
  | _ => true

/-- Whether a condition is an object, and a literal. -/
def Value.isPlainObject (c : Value) : Bool := c.isObject && c.isLiteral

theorem equal_object_of_not_isObject {v : Value} (h : v.isObject = false) (fields : Fields) :
    v.equal (.object fields) = false := by
  cases v with
  | object => cases h
  | _ => rfl

namespace Evaluation

variable {χ : Type} [PatternEngine] (k : Checks χ) {name : String} {c : Value}

theorem condition_of_isLiteral (hc : c.isLiteral) (v : Option Value) :
    condition k c v = k.answer (Value.equalIfPresent v c) := by
  cases c with
  | object fields =>
    have ho : isOperatorObject fields = false := by simpa [Value.isLiteral] using hc
    simp [condition, ho]
  | _ => rfl

/-- Only a plain object is read otherwise by `$elemMatch` than as a condition. -/
theorem element_of_not_isPlainObject (hc : c.isPlainObject = false) (item : Value) :
    element k c item = condition k c (some item) := by
  cases c with
  | object fields =>
    have ho : isOperatorObject fields = true := by
      simpa [Value.isPlainObject, Value.isObject, Value.asObject?, Value.isLiteral] using hc
    simp only [element, condition, ho, if_true]
  | _ => rfl

theorem key_of_not_accepts {combinator : Combinator} (hn : Combinator.ofName? name = some combinator)
    (hc : combinator.accepts c = false) (document : Value) :
    key k (name, c) document = k.fail (.malformedRule combinator) := by
  simp only [key, hn]
  cases combinator with
  | not =>
    cases c with
    | object => cases hc
    | _ => rfl
  | _ =>
    cases c with
    | array rules =>
      have hr : rules.all Value.isObject = false := hc
      simp [allOf, anyOf, noneOf, hr]
    | _ => rfl

theorem operator_of_not_accepts {op : Operator} (hn : Operator.ofName? name = some op)
    (hc : op.accepts c = false) (v : Option Value) :
    operator k (name, c) v = k.fail (.malformedOperand op) := by
  simp only [operator, hn]
  cases op with
  | regex | isIn | notIn | all => cases c <;> first | rfl | cases hc
  | _ => cases hc

theorem operator_of_unknown (hn : Operator.ofName? name = none) (v : Option Value) :
    operator k (name, c) v = k.fail (.unknownOperator name) := by
  simp only [operator, hn]

end Evaluation

end Targeting

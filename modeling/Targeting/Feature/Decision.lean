import Targeting.Feature.Basic
import Targeting.Evaluation
/-!
# Deciding a feature

The rules of a feature are tested in order, and the first that applies to a
document decides. A rule that is disabled is not tested, and one whose stored
condition is no rule reports that and does not apply.
-/

namespace Targeting

/-- Tests a document against a stored condition. -/
def StoredCondition.evaluate [PatternEngine] (c : StoredCondition) (document : Value) : Report :=
  match c with
  | .always => ⟨true, []⟩
  | .rule r => r.evaluate document
  | .invalid error => ⟨false, [.invalidCondition error]⟩

/-- Tests whether a feature rule applies to a document. -/
def FeatureRule.evaluate [PatternEngine] (r : FeatureRule) (document : Value) : Report :=
  if r.enabled then r.condition.evaluate document else ⟨false, []⟩

/-- What a feature has for a document. -/
inductive Decision where
  /-- The value of the rule at this place. -/
  | forced (index : Nat) (value : String)
  /-- A value that the rule at this place is still to assign. -/
  | needsAssignment (index : Nat) (rule : FeatureRule)
  | default (value : String)

namespace Feature

/-- The first of the rules that applies, with its place counted from `index`,
and the problems met on the way. -/
def firstApplying [PatternEngine] (document : Value) (index : Nat) :
    List FeatureRule → Option (Nat × FeatureRule) × List Diagnostic
  | [] => (none, [])
  | r :: rs =>
    let report := r.evaluate document
    if report.holds then (some (index, r), report.diagnostics)
    else
      let (found, diagnostics) := firstApplying document (index + 1) rs
      (found, report.diagnostics ++ diagnostics)

/-- What the rule found decides. -/
def decisionOf (f : Feature) : Option (Nat × FeatureRule) → Decision
  | some (index, rule) =>
    match rule.type with
    | .force => .forced index rule.value
    | .rollout | .experiment => .needsAssignment index rule
  | none => .default f.defaultValue

/-- Decides a feature for a document, with the problems met, in order. -/
def decide [PatternEngine] (f : Feature) (document : Value) : Decision × List Diagnostic :=
  let (found, diagnostics) := firstApplying document 0 f.rules
  (f.decisionOf found, diagnostics)

end Feature

end Targeting

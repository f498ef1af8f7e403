import Targeting.Operator
import Targeting.Json.Basic
/-!
# Diagnostics

What can be wrong with a rule, as it is met while the rule is tested. Whatever
is wrong contributes `false`.
-/

namespace Targeting

inductive Diagnostic where
  /-- A key of a condition starts with `$` and names no operator. -/
  | unknownOperator (name : String)
  /-- The operand of `$regex` does not compile, for the reason that the engine gives. -/
  | invalidPattern (pattern error : String)
  /-- A combinator holds something other than rules. -/
  | malformedRule (combinator : Combinator)
  /-- An operator has an operand of the wrong kind. -/
  | malformedOperand (operator : Operator)
  /-- The stored condition of a feature rule is not a rule. -/
  | invalidCondition (error : Json.Error)
  /-- More levels would have been open than the limit allows. -/
  | nestingTooDeep (limit : Nat)
deriving DecidableEq, Repr

/-- What a combinator holds. -/
def Combinator.expected : Combinator → String
  | .not => "a rule"
  | _ => "a list of rules"

/-- What an operator wants, if it refuses some operands. -/
def Operator.expected : Operator → String
  | .regex => "a pattern string"
  | _ => "a list of values"

namespace Diagnostic

def message : Diagnostic → String
  | .unknownOperator name => "Unknown operator: " ++ name
  | .invalidPattern pattern error =>
    "Invalid regex for '$regex' operator (" ++ pattern ++ "): " ++ error
  | .malformedRule c => "Malformed rule: '" ++ c.name ++ "' expects " ++ c.expected
  | .malformedOperand op => "Malformed operand: '" ++ op.name ++ "' expects " ++ op.expected
  | .invalidCondition error => "Invalid feature rule condition: " ++ error.message
  | .nestingTooDeep limit =>
    "Rule nesting exceeds the limit of " ++ toString limit ++ " levels"

end Diagnostic

end Targeting

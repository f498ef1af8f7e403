import Targeting.Rule
import Targeting.Json.Basic
/-!
# Features

A feature has a default value and rules in order. Each rule says which documents
it is for, and what happens to those: they get the rule's value, or they are to
be assigned one by a rollout or an experiment.
-/

namespace Targeting

/-- The type of a feature's values. -/
inductive ValueType where
  | boolean
  | number
  | string
  | json
deriving DecidableEq, Repr

namespace ValueType

def name : ValueType → String
  | .boolean => "boolean"
  | .number => "number"
  | .string => "string"
  | .json => "json"

def all : List ValueType := [.boolean, .number, .string, .json]

end ValueType

/-- What a feature rule does with the documents it is for. -/
inductive RuleType where
  | force
  | rollout
  | experiment
deriving DecidableEq, Repr

namespace RuleType

def name : RuleType → String
  | .force => "force"
  | .rollout => "rollout"
  | .experiment => "experiment"

def all : List RuleType := [.force, .rollout, .experiment]

end RuleType

/-- A value of a rollout with its share of the documents. -/
structure RolloutValue where
  value : String
  weight : Binary64

/-- The condition of a feature rule, which is stored as text. A text that is no
rule is kept as what is wrong with it. -/
inductive StoredCondition where
  | always
  | rule (r : Rule)
  | invalid (error : Json.Error)

structure FeatureRule where
  type : RuleType
  description : String
  condition : StoredCondition
  enabled : Bool
  value : String
  coverage : Option Binary64
  rollout : List RolloutValue
  variations : List String
  trackingKey : Option String
  userIdType : Option String
  experiment : Option String

structure Feature where
  id : String
  description : String
  valueType : ValueType
  defaultValue : String
  rules : List FeatureRule

end Targeting

import Targeting.Value.Equality
/-!
# Operators and combinators

The keys of a condition that start with `$` name operators, and four keys of a
rule name combinators. The operators that look only at the value and their
operand are answered here.
-/

namespace Targeting

/-! ## Operators -/

inductive Operator where
  | eq
  | ne
  | gt
  | gte
  | lt
  | lte
  | regex
  | isIn
  | notIn
  | exists
  | size
  | elemMatch
  | type
  | all
  | not
deriving DecidableEq, Repr

namespace Operator

def name : Operator → String
  | .eq => "$eq"
  | .ne => "$ne"
  | .gt => "$gt"
  | .gte => "$gte"
  | .lt => "$lt"
  | .lte => "$lte"
  | .regex => "$regex"
  | .isIn => "$in"
  | .notIn => "$nin"
  | .exists => "$exists"
  | .size => "$size"
  | .elemMatch => "$elemMatch"
  | .type => "$type"
  | .all => "$all"
  | .not => "$not"

def ofName? : String → Option Operator
  | "$eq" => some .eq
  | "$ne" => some .ne
  | "$gt" => some .gt
  | "$gte" => some .gte
  | "$lt" => some .lt
  | "$lte" => some .lte
  | "$regex" => some .regex
  | "$in" => some .isIn
  | "$nin" => some .notIn
  | "$exists" => some .exists
  | "$size" => some .size
  | "$elemMatch" => some .elemMatch
  | "$type" => some .type
  | "$all" => some .all
  | "$not" => some .not
  | _ => none

end Operator

/-! ## Combinators -/

inductive Combinator where
  | and
  | or
  | nor
  | not
deriving DecidableEq, Repr

namespace Combinator

def name : Combinator → String
  | .and => "$and"
  | .or => "$or"
  | .nor => "$nor"
  | .not => "$not"

def ofName? : String → Option Combinator
  | "$and" => some .and
  | "$or" => some .or
  | "$nor" => some .nor
  | "$not" => some .not
  | _ => none

end Combinator

/-! ## Operator objects -/

/-- Whether a key starts with `$`. -/
def isOperatorKey (key : String) : Bool := key.toList.head? == some '$'

/-- Whether an object is read as operators: it has a key, and all its keys
start with `$`. Any other object is a literal. -/
def isOperatorObject (fields : Fields) : Bool :=
  !fields.isEmpty && fields.all fun f => isOperatorKey f.1

/-! ## Answers of single operators -/

namespace Value

/-- The order of two numbers or of two strings, which are ordered by code
point. Nothing else is ordered. -/
def order? : Value → Value → Option Ordering
  | .number x, .number y => x.order? y
  | .string s, .string t => some (if s < t then .lt else if s = t then .eq else .gt)
  | _, _ => none

/-- Whether a value is ordered against an operand, and in a way that `accepts`
takes. -/
def isOrdered (accepts : Ordering → Bool) (v : Option Value) (operand : Value) : Bool :=
  match v.bind fun u => u.order? operand with
  | some o => accepts o
  | none => false

/-- Whether some candidate equals a value that may be absent. -/
def isAmong : Option Value → List Value → Bool
  | some v, candidates => candidates.any fun c => c.equal v
  | none, _ => false

/-- Whether the operand of `$exists` asks for a value. -/
def asksForPresence (operand : Value) : Bool :=
  match operand with
  | .bool b => b
  | _ => operand.isTruthy

/-- Whether the operand of `$type` names the kind of a value. -/
def hasNamedKind (v : Option Value) : Value → Bool
  | .string s => Kind.ofName? s == some (kind? v)
  | _ => false

end Value

end Targeting

import Targeting.Check
import Targeting.Path
import Targeting.Rule
import Targeting.Value.Text
/-!
# Testing rules and conditions

A condition is tested against a value that may be absent, and a rule against a
document. A rule opens a level, and so does an object of operators. All keys of
a rule and all operators of a condition are tested, so that each reports its
problems; lists of rules, items and conditions are tested until the answer is
known.

What compiles patterns and searches texts for them is a parameter of all this, a
`PatternEngine`. `Evaluation.condition` and `Evaluation.rule` make checks of any kind.
`Rule.evaluate` and `matchCondition` are the two entry points: their checks refuse
to open more than `levelLimit` levels, and a test that would need more does not
hold at all.
-/

namespace Targeting

/-! ## Patterns -/

/-- What patterns are. Nothing is asked of an engine but that it gives the same
answer to the same question: what a text is compiled to or why it cannot be, and
whether there is a match in a text. -/
class PatternEngine where
  Compiled : Type
  /-- A text that is no pattern is refused with a message. -/
  compile : String → Except String Compiled
  /-- Whether some part of a text matches. -/
  isFoundIn : Compiled → String → Bool

namespace Evaluation

variable {χ : Type} (k : Checks χ)

/-- A test of the items of an array, which does not hold of any other value. -/
def onItems (v : Option Value) (test : List Value → χ) : χ :=
  match v with
  | some (.array items) => test items
  | _ => k.answer false

variable [PatternEngine]

/-! ## Operators that test no condition -/

/-- `$regex`: an operand that is no text is reported even if the value is absent
or has no text, and a text that does not compile only if the value has one. -/
def searchPattern (v : Option Value) : Value → χ
  | .string pattern =>
    match v.bind Value.text? with
    | none => k.answer false
    | some text =>
      match PatternEngine.compile pattern with
      | .ok compiled => k.answer (PatternEngine.isFoundIn compiled text)
      | .error error => k.fail (.invalidPattern pattern error)
  | _ => k.fail (.malformedOperand .regex)

def simple (op : Operator) (v : Option Value) (operand : Value) : χ :=
  match op with
  | .eq => k.answer (Value.equalIfPresent v operand)
  | .ne => k.answer (!Value.equalIfPresent v operand)
  | .gt => k.answer (Value.isOrdered (· == .gt) v operand)
  | .gte => k.answer (Value.isOrdered (· != .lt) v operand)
  | .lt => k.answer (Value.isOrdered (· == .lt) v operand)
  | .lte => k.answer (Value.isOrdered (· != .gt) v operand)
  | .regex => searchPattern k v operand
  | .isIn =>
    match operand with
    | .array candidates => k.answer (Value.isAmong v candidates)
    | _ => k.fail (.malformedOperand .isIn)
  | .notIn =>
    match operand with
    | .array candidates => k.answer (!Value.isAmong v candidates)
    | _ => k.fail (.malformedOperand .notIn)
  | .exists => k.answer (v.isSome == Value.asksForPresence operand)
  | .type => k.answer (Value.hasNamedKind v operand)
  | .size | .elemMatch | .all | .not => k.answer false

/-! ## Conditions and rules -/

mutual
/-- Whether a value that may be absent meets a condition. -/
def condition : Value → Option Value → χ
  | .object fields, v =>
    if isOperatorObject fields then k.enter (operators fields v)
    else k.answer (Value.equalIfPresent v (.object fields))
  | c, v => k.answer (Value.equalIfPresent v c)
termination_by structural c => c

/-- Whether a value meets every operator of a condition. -/
def operators : List (String × Value) → Option Value → χ
  | [], _ => k.answer true
  | f :: rest, v => k.both (operator f v) (operators rest v)
termination_by structural fields => fields

/-- Whether a value meets one operator. -/
def operator : String × Value → Option Value → χ
  | (name, operand), v =>
    match Operator.ofName? name with
    | none => k.fail (.unknownOperator name)
    | some .not => k.not (condition operand v)
    | some .size => onItems k v fun items => condition operand (some (.ofNat items.length))
    | some .elemMatch => onItems k v (k.any (element operand))
    | some .all => containsAll operand v
    | some op => simple k op v operand
termination_by structural f => f

/-- Whether an item of an array is what `$elemMatch` asks for: an object that is
not of operators is a rule for the items that are objects. -/
def element : Value → Value → χ
  | .object fields, item =>
    if isOperatorObject fields then k.enter (operators fields (some item))
    else if item.isObject then k.enter (keys fields item)
    else k.answer (item.equal (.object fields))
  | c, item => k.answer (item.equal c)
termination_by structural c => c

/-- `$all`: whether an array has an item for every condition in the operand. -/
def containsAll : Value → Option Value → χ
  | .array conditions, v => onItems k v (hasItems conditions)
  | _, _ => k.fail (.malformedOperand .all)
termination_by structural c => c

/-- Whether every condition is met by some item. -/
def hasItems : List Value → List Value → χ
  | [], _ => k.answer true
  | c :: cs, items =>
    k.andThen (k.any (fun item => condition c (some item)) items) (hasItems cs items)
termination_by structural cs => cs

/-- Whether a document meets every key of a rule. -/
def keys : List (String × Value) → Value → χ
  | [], _ => k.answer true
  | f :: rest, document => k.both (key f document) (keys rest document)
termination_by structural fields => fields

/-- Whether a document meets one key of a rule. -/
def key : String × Value → Value → χ
  | (name, c), document =>
    match Combinator.ofName? name with
    | none => condition c ((Path.ofText name).resolve document)
    | some .and => allOf c document
    | some .or => anyOf c document
    | some .nor => noneOf c document
    | some .not => notOne c document
termination_by structural f => f

/-- `$and`: all of a list of rules. -/
def allOf : Value → Value → χ
  | .array rules, document =>
    if rules.all Value.isObject then everyRule rules document else k.fail (.malformedRule .and)
  | _, _ => k.fail (.malformedRule .and)
termination_by structural c => c

/-- `$or`: one of a list of rules; an empty list holds. -/
def anyOf : Value → Value → χ
  | .array rules, document =>
    if rules.all Value.isObject then
      if rules.isEmpty then k.answer true else someRule rules document
    else k.fail (.malformedRule .or)
  | _, _ => k.fail (.malformedRule .or)
termination_by structural c => c

/-- `$nor`: none of a list of rules. -/
def noneOf : Value → Value → χ
  | .array rules, document =>
    if rules.all Value.isObject then k.not (someRule rules document)
    else k.fail (.malformedRule .nor)
  | _, _ => k.fail (.malformedRule .nor)
termination_by structural c => c

/-- `$not`: not one rule. -/
def notOne : Value → Value → χ
  | .object fields, document => k.not (k.enter (keys fields document))
  | _, _ => k.fail (.malformedRule .not)
termination_by structural c => c

/-- Tests rules until one does not hold. -/
def everyRule : List Value → Value → χ
  | [], _ => k.answer true
  | r :: rs, document => k.andThen (listedRule r document) (everyRule rs document)
termination_by structural rs => rs

/-- Tests rules until one holds. -/
def someRule : List Value → Value → χ
  | [], _ => k.answer false
  | r :: rs, document => k.orElse (listedRule r document) (someRule rs document)
termination_by structural rs => rs

/-- A rule in a list. -/
def listedRule : Value → Value → χ
  | .object fields, document => k.enter (keys fields document)
  | _, _ => k.answer false
termination_by structural r => r
end

/-- Whether a document meets a rule. -/
def rule (fields : Fields) (document : Value) : χ := k.enter (keys k fields document)

end Evaluation

/-! ## Limited nesting -/

/-- The state of a test: how many levels are open, whether one too many was to
be opened, and the problems met so far. -/
structure Progress where
  depth : Nat := 0
  aborted : Bool := false
  diagnostics : List Diagnostic := []
deriving DecidableEq, Repr

/-- How many levels may be open at once. -/
def levelLimit : Nat := 128

/-- Opens a level unless the test is aborted, and aborts it if `limit` levels are
open already. -/
def limitedTo (limit : Nat) : Guard Progress where
  enter p s :=
    if s.aborted then (false, s)
    else if limit ≤ s.depth then
      (false, { s with aborted := true, diagnostics := s.diagnostics ++ [.nestingTooDeep limit] })
    else
      let r := p { s with depth := s.depth + 1 }
      (r.1, { r.2 with depth := r.2.depth - 1 })
  record d s := { s with diagnostics := s.diagnostics ++ [d] }

/-! ## Entry points -/

/-- The answer of a test with the problems met, in order. -/
structure Report where
  holds : Bool
  diagnostics : List Diagnostic
deriving DecidableEq, Repr

/-- Runs a check from the start. An aborted test does not hold. -/
def Check.report (p : Check Progress) : Report :=
  let r := p {}
  ⟨r.1 && !r.2.aborted, r.2.diagnostics⟩

/-- Tests a value that may be absent against a condition. -/
def matchCondition [PatternEngine] (v : Option Value) (c : Value) : Report :=
  (Evaluation.condition (limitedTo levelLimit).checks c v).report

/-- Tests a document against a rule. -/
def Rule.evaluate [PatternEngine] (r : Rule) (document : Value) : Report :=
  (Evaluation.rule (limitedTo levelLimit).checks r.conditions document).report

end Targeting

import Targeting.Proofs.Shapes
/-!
# Entries

What is tested on its own in a rule: its keys, and the operators of its
conditions. `Rule.entries` lists them without looking at a document: either all
that some document may have tested, or only those that every document has tested.
A literal has no entries, whatever is written in it: neither what `$eq` and `$in`
compare with, nor a condition that is an object of other keys.
-/

namespace Targeting

inductive Entry where
  /-- A key of a rule with what it holds. -/
  | key (name : String) (held : Value)
  /-- An operator of a condition with its operand. -/
  | operator (name : String) (operand : Value)

namespace Entry

/-- The problem with an entry that has the wrong shape, whatever is tested: a
combinator or an operator holds what it does not take, or there is no such
operator. -/
def misfit? : Entry → Option Diagnostic
  | key name held =>
    match Combinator.ofName? name with
    | some combinator => if combinator.accepts held then none else some (.malformedRule combinator)
    | none => none
  | operator name operand =>
    match Operator.ofName? name with
    | some op => if op.accepts operand then none else some (.malformedOperand op)
    | none => some (.unknownOperator name)

/-- The problem with an operand of `$regex` that is a text but does not compile. -/
def badPattern? [PatternEngine] : Entry → Option Diagnostic
  | key _ _ => none
  | operator name operand =>
    match Operator.ofName? name, operand with
    | some .regex, .string pattern =>
      match PatternEngine.compile pattern with
      | .ok _ => none
      | .error error => some (.invalidPattern pattern error)
    | _, _ => none

/-- Whether an entry is to blame for a problem. -/
def Causes [PatternEngine] (e : Entry) (d : Diagnostic) : Prop := e.misfit? = some d ∨ e.badPattern? = some d

section
variable {name : String} {c : Value}

theorem misfit?_operator_of_unknown (hn : Operator.ofName? name = none) :
    (operator name c).misfit? = some (.unknownOperator name) := by
  simp only [misfit?, hn]

theorem misfit?_operator_of_accepts {op : Operator} (hn : Operator.ofName? name = some op)
    (ha : op.accepts c = true) : (operator name c).misfit? = none := by
  simp only [misfit?, hn, if_pos ha]

theorem misfit?_operator_of_not_accepts {op : Operator} (hn : Operator.ofName? name = some op)
    (ha : op.accepts c = false) : (operator name c).misfit? = some (.malformedOperand op) := by
  simp only [misfit?, hn, ha, Bool.false_eq_true, if_false]

theorem misfit?_key_of_path (hn : Combinator.ofName? name = none) : (key name c).misfit? = none := by
  simp only [misfit?, hn]

theorem misfit?_key_of_accepts {combinator : Combinator}
    (hn : Combinator.ofName? name = some combinator) (ha : combinator.accepts c = true) :
    (key name c).misfit? = none := by
  simp only [misfit?, hn, if_pos ha]

theorem misfit?_key_of_not_accepts {combinator : Combinator}
    (hn : Combinator.ofName? name = some combinator) (ha : combinator.accepts c = false) :
    (key name c).misfit? = some (.malformedRule combinator) := by
  simp only [misfit?, hn, ha, Bool.false_eq_true, if_false]

end

end Entry

/-! ## Entries of rules -/

/-- Which entries are listed: those that every document has tested, or those that
some document may have tested. -/
inductive Reach where
  | always
  | ever

/-- Entries whose test depends on the document. -/
def Reach.ifEver : Reach → List Entry → List Entry
  | always, _ => []
  | ever, es => es

mutual
def conditionEntries (reach : Reach) : Value → List Entry
  | .object fields => if isOperatorObject fields then operatorsEntries reach fields else []
  | _ => []
termination_by structural c => c

def operatorsEntries (reach : Reach) : List (String × Value) → List Entry
  | [] => []
  | f :: rest => operatorEntries reach f ++ operatorsEntries reach rest
termination_by structural fields => fields

/-- An operator and the entries of the conditions that it puts to the value, to
how many items there are, or to the items. -/
def operatorEntries (reach : Reach) : String × Value → List Entry
  | (name, operand) =>
    .operator name operand ::
      match Operator.ofName? name with
      | some .not => conditionEntries reach operand
      | some .size => reach.ifEver (conditionEntries reach operand)
      | some .elemMatch => reach.ifEver (elementEntries reach operand)
      | some .all => reach.ifEver (containedEntries reach operand)
      | _ => []
termination_by structural f => f

/-- The operand of `$elemMatch` is a condition if it is an object of operators,
and any other object is a rule. -/
def elementEntries (reach : Reach) : Value → List Entry
  | .object fields =>
    if isOperatorObject fields then operatorsEntries reach fields else keysEntries reach fields
  | _ => []
termination_by structural c => c

def containedEntries (reach : Reach) : Value → List Entry
  | .array conditions => conditionsEntries reach conditions
  | _ => []
termination_by structural c => c

def conditionsEntries (reach : Reach) : List Value → List Entry
  | [] => []
  | c :: cs => conditionEntries reach c ++ conditionsEntries reach cs
termination_by structural cs => cs

def keysEntries (reach : Reach) : List (String × Value) → List Entry
  | [] => []
  | f :: rest => keyEntries reach f ++ keysEntries reach rest
termination_by structural fields => fields

/-- A key and the entries of the condition or of the rules that it holds. -/
def keyEntries (reach : Reach) : String × Value → List Entry
  | (name, c) =>
    .key name c ::
      match Combinator.ofName? name with
      | none => conditionEntries reach c
      | some .not => ruleEntries reach c
      | some _ => reach.ifEver (listEntries reach c)
termination_by structural f => f

def ruleEntries (reach : Reach) : Value → List Entry
  | .object fields => keysEntries reach fields
  | _ => []
termination_by structural c => c

/-- A list in which something is no rule is not looked into. -/
def listEntries (reach : Reach) : Value → List Entry
  | .array rules => if rules.all Value.isObject then rulesEntries reach rules else []
  | _ => []
termination_by structural c => c

def rulesEntries (reach : Reach) : List Value → List Entry
  | [] => []
  | r :: rs => ruleEntries reach r ++ rulesEntries reach rs
termination_by structural rs => rs
end

def Rule.entries (reach : Reach) (r : Rule) : List Entry := keysEntries reach r.conditions

end Targeting

import Targeting.Value.Equality
/-!
# Rules

A rule is an object: its keys that name combinators hold further rules, and any
other key is a path to a value of the document, with the condition it is to meet.
-/

namespace Targeting

structure Rule where
  conditions : Fields

namespace Rule

/-- A rule without keys holds of every document. -/
def isEmpty (r : Rule) : Bool := r.conditions.isEmpty

/-- Rules are equal if they are equal as objects. -/
def equal (r s : Rule) : Bool := (Value.object r.conditions).equal (.object s.conditions)

/-- What is wrong with a value that is to be a rule: it is of another kind. -/
structure NotAnObject where
  found : Kind
deriving DecidableEq, Repr

def NotAnObject.message (e : NotAnObject) : String :=
  "Rule must be an object, found " ++ e.found.name

def ofValue : Value → Except NotAnObject Rule
  | .object fields => .ok ⟨fields⟩
  | v => .error ⟨v.kind⟩

end Rule

end Targeting

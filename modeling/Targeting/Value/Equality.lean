import Targeting.Value.Basic
/-!
# Deep equality

Arrays are equal place by place. Objects are equal if they have as many keys
and every key of one has an equal value in the other, so the order of the keys
does not count. Numbers are compared as numbers: the two zeros are equal, and a
NaN, or anything that holds one, does not equal itself.
-/

namespace Targeting

mutual
def Value.equal : Value → Value → Bool
  | .null, .null => true
  | .bool a, .bool b => a == b
  | .number x, .number y => x.equal y
  | .string s, .string t => s == t
  | .array xs, .array ys => itemsEqual xs ys
  | .object xs, .object ys => xs.length == ys.length && fieldsEqual xs ys
  | _, _ => false
termination_by structural v => v

def itemsEqual : List Value → List Value → Bool
  | [], [] => true
  | x :: xs, y :: ys => x.equal y && itemsEqual xs ys
  | _, _ => false
termination_by structural xs => xs

/-- Every key of the first has an equal value in the second. -/
def fieldsEqual : List (String × Value) → Fields → Bool
  | [], _ => true
  | (key, x) :: rest, ys =>
    (match ys.lookup key with
      | some y => x.equal y
      | none => false) && fieldsEqual rest ys
termination_by structural xs => xs
end

namespace Value

/-- Equality of a value that may be absent: an absent value equals none. -/
def equalIfPresent : Option Value → Value → Bool
  | some v, c => v.equal c
  | none, _ => false

end Value

end Targeting

import Targeting.Binary64.Rounding
/-!
# Values

A value is what a document, a rule or a condition is made of. An object is a
list of keys with their values, in the order in which they are visited. A value
that is absent is no value at all: where a value may be absent the type is
`Option Value`, and an absent value differs from a present `null`.
-/

namespace Targeting

inductive Value where
  | null
  | bool (b : Bool)
  | number (x : Binary64)
  | string (s : String)
  | array (items : List Value)
  | object (fields : List (String × Value))

/-- The entries of an object, each with its key. -/
abbrev Fields := List (String × Value)

/-- Gives `key` the value `v`, in its old place if it had one. -/
def Fields.set (key : String) (v : Value) : Fields → Fields
  | [] => [(key, v)]
  | (k, u) :: rest => if k = key then (key, v) :: rest else (k, u) :: Fields.set key v rest

/-- The object made from pairs in which the last value of a repeated key wins. -/
def Fields.ofPairs (pairs : List (String × Value)) : Fields :=
  pairs.foldl (fun fields p => Fields.set p.1 p.2 fields) []

/-! ## Kinds -/

/-- The kind of a value that may be absent. -/
inductive Kind where
  | string
  | number
  | boolean
  | object
  | array
  | null
  | undefined
deriving DecidableEq, Repr

namespace Kind

def name : Kind → String
  | .string => "string"
  | .number => "number"
  | .boolean => "boolean"
  | .object => "object"
  | .array => "array"
  | .null => "null"
  | .undefined => "undefined"

def ofName? : String → Option Kind
  | "string" => some .string
  | "number" => some .number
  | "boolean" => some .boolean
  | "object" => some .object
  | "array" => some .array
  | "null" => some .null
  | "undefined" => some .undefined
  | _ => none

end Kind

namespace Value

def kind : Value → Kind
  | .null => .null
  | .bool _ => .boolean
  | .number _ => .number
  | .string _ => .string
  | .array _ => .array
  | .object _ => .object

/-- The kind of a value that may be absent. -/
def kind? : Option Value → Kind
  | some v => v.kind
  | none => .undefined

/-! ## Parts -/

def asBool? : Value → Option Bool
  | .bool b => some b
  | _ => none

def asString? : Value → Option String
  | .string s => some s
  | _ => none

def asArray? : Value → Option (List Value)
  | .array items => some items
  | _ => none

def asObject? : Value → Option Fields
  | .object fields => some fields
  | _ => none

def isObject (v : Value) : Bool := v.asObject?.isSome

/-- Null, false, the zeros, NaN and the empty string are not truthy; all else
is. -/
def isTruthy : Value → Bool
  | .null => false
  | .bool b => b
  | .number x => !x.isZero && !x.isNaN
  | .string s => s != ""
  | .array _ | .object _ => true

/-! ## Conversions -/

def ofInt (i : Int) : Value := .number (.ofInt i)

def ofNat (n : Nat) : Value := .number (.ofNat n)

end Value

end Targeting

import Targeting.Value.Basic
import Targeting.Json.Decoder
/-!
# Values and JSON

Every JSON tree is a value: `Value.ofJson` converts a tree that has been read,
and `Decoder.value` decodes a value from an outline. In both, the last value of a
repeated key counts. `Value.toJson` goes back; JSON has no NaN and no infinities,
and null stands for them.

The variants of a value have no tag. It is taken as given that the first of them to
accept a JSON value is the one decoded, where a text, an array, a number, a truth value,
an object and null are tried in this order and each accepts its own kind of JSON value
and no other. So the variant can be told by the kind, as `Outline.toValue` does.
-/

namespace Targeting

open Json (Outline Member Flaw Decoder)

mutual
def Value.ofJson : Json → Value
  | .null => .null
  | .bool b => .bool b
  | .number (.integer n) => .number (.ofInt n)
  | .number (.float x) => .number x
  | .string s => .string s
  | .array items => .array (valuesOfJson items)
  | .object members => .object (Fields.ofPairs (pairsOfJson members))
termination_by structural j => j

def valuesOfJson : List Json → List Value
  | [] => []
  | j :: js => .ofJson j :: valuesOfJson js
termination_by structural js => js

def pairsOfJson : List (String × Json) → List (String × Value)
  | [] => []
  | (key, j) :: rest => (key, .ofJson j) :: pairsOfJson rest
termination_by structural ms => ms
end

mutual
def Value.toJson : Value → Json
  | .null => .null
  | .bool b => .bool b
  | .number x => if x.isFinite then .number (.float x) else .null
  | .string s => .string s
  | .array items => .array (valuesToJson items)
  | .object fields => .object (fieldsToJson fields)
termination_by structural v => v

def valuesToJson : List Value → List Json
  | [] => []
  | v :: vs => v.toJson :: valuesToJson vs
termination_by structural vs => vs

def fieldsToJson : List (String × Value) → List (String × Json)
  | [] => []
  | (key, v) :: rest => (key, v.toJson) :: fieldsToJson rest
termination_by structural fs => fs
end

namespace Json

mutual
/-- The value that an outline is of. -/
def Outline.toValue : Outline → Except Flaw Value
  | .null _ _ => .ok .null
  | .bool _ _ b => .ok (.bool b)
  | .number _ _ n => .ok (.number (Decoder.numberValue n))
  | .string _ _ s => .ok (.string s)
  | .array _ _ items ending => do
    let vs ← itemsToValues items
    Decoder.stopAtFlaw ending.listFlaw?
    pure (.array vs)
  | .object _ _ members ending => do
    let fields ← membersToFields members []
    Decoder.stopAtFlaw ending.objectFlaw?
    pure (.object fields)
  | .broken _ _ reading _ => .error reading
termination_by structural o => o

def itemsToValues : List Outline → Except Flaw (List Value)
  | [] => .ok []
  | o :: os => do
    let v ← o.toValue
    let vs ← itemsToValues os
    pure (v :: vs)
termination_by structural os => os

/-- The members read are added to the fields that came before them. -/
def membersToFields : List (Member Outline) → Fields → Except Flaw Fields
  | [], done => .ok done
  | ⟨key, _, _, o, _⟩ :: ms, done => do
    let key ← key
    let v ← o.toValue
    membersToFields ms (Fields.set key v done)
termination_by structural ms => ms
end

namespace Decoder

def value : Decoder Value := Outline.toValue

/-- An object of values. -/
def fields : Decoder Fields
  | .object _ _ members ending => do
    let fields ← membersToFields members []
    stopAtFlaw ending.objectFlaw?
    pure fields
  | o => mismatch "a map" o

end Decoder

end Json

end Targeting

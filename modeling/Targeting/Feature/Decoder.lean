import Targeting.Feature.Basic
import Targeting.Value.Json
import Targeting.Text
/-!
# Reading rules and features

Decoders for rules, for stored conditions and for features. A stored condition
that is no rule does not keep its feature from being read.
-/

namespace Targeting

open Json (Decoder Origin Error)

/-- A rule, as an object of values. -/
def Rule.decoder : Decoder Rule := fun o => .mk <$> Decoder.fields o

/-- Reads a rule from a text. -/
def Rule.ofText (text : String) : Except Error Rule :=
  Json.decodeText Json.depthLimit Rule.decoder text

/-- Reads a rule from a tree. -/
def Rule.ofJson (j : Json) : Except Error Rule := Json.decodeTree Rule.decoder j

namespace StoredCondition

/-- Reads a condition. A text with nothing but white space is no condition. -/
def ofText (text : String) : StoredCondition :=
  if Text.isBlankText text then .always
  else match Rule.ofText text with
    | .ok r => .rule r
    | .error e => .invalid e

/-- A text, or null for no condition. A container is opened before it is
refused. -/
def decoder : Decoder StoredCondition
  | .string _ _ s => .ok (ofText s)
  | .null _ _ => .ok .always
  | .array _ refused _ _ => Decoder.stop (.invalidType .sequence expected) refused
  | .object _ refused _ _ => Decoder.stop (.invalidType .map expected) refused
  | o => Decoder.mismatch expected o
where
  expected := "a JSON-encoded rule string or null"

end StoredCondition

namespace RolloutValue

def record : Decoder.Record RolloutValue where
  name := "RolloutValue"
  fields := [
    Decoder.required "value" Decoder.string fun v r => { r with value := v },
    Decoder.required "weight" Decoder.number fun v r => { r with weight := v }]
  blank := ⟨"", .zero⟩

end RolloutValue

namespace FeatureRule

def record (origin : Origin) : Decoder.Record FeatureRule where
  name := "FeatureRule"
  fields := [
    Decoder.required "type" (Decoder.choice origin (RuleType.all.map fun t => (t.name, t)))
      fun v r => { r with type := v },
    Decoder.defaulted "description" Decoder.string fun v r => { r with description := v },
    Decoder.defaulted "condition" StoredCondition.decoder fun v r => { r with condition := v },
    Decoder.defaulted "enabled" Decoder.bool fun v r => { r with enabled := v },
    Decoder.defaulted "value" Decoder.string fun v r => { r with value := v },
    Decoder.defaulted "coverage" (Decoder.optional Decoder.number)
      fun v r => { r with coverage := v },
    Decoder.defaulted "rollout" (Decoder.list (Decoder.record origin RolloutValue.record))
      fun v r => { r with rollout := v },
    Decoder.defaulted "variations" (Decoder.list Decoder.string)
      fun v r => { r with variations := v },
    Decoder.defaulted "trackingKey" (Decoder.optional Decoder.string)
      fun v r => { r with trackingKey := v },
    Decoder.defaulted "userIdType" (Decoder.optional Decoder.string)
      fun v r => { r with userIdType := v },
    Decoder.defaulted "experiment" (Decoder.optional Decoder.string)
      fun v r => { r with experiment := v }]
  blank := ⟨.force, "", .always, true, "", none, [], [], none, none, none⟩

def decoder (origin : Origin) : Decoder FeatureRule := Decoder.record origin (record origin)

def ofText (text : String) : Except Error FeatureRule :=
  Json.decodeText Json.depthLimit (decoder .text) text

def ofJson (j : Json) : Except Error FeatureRule := Json.decodeTree (decoder .tree) j

end FeatureRule

namespace Feature

def record (origin : Origin) : Decoder.Record Feature where
  name := "Feature"
  fields := [
    Decoder.required "id" Decoder.string fun v f => { f with id := v },
    Decoder.defaulted "description" Decoder.string fun v f => { f with description := v },
    Decoder.required "valueType"
      (Decoder.choice origin (ValueType.all.map fun t => (t.name, t)))
      fun v f => { f with valueType := v },
    Decoder.required "defaultValue" Decoder.string fun v f => { f with defaultValue := v },
    Decoder.defaulted "rules" (Decoder.list (FeatureRule.decoder origin))
      fun v f => { f with rules := v }]
  blank := ⟨"", "", .boolean, "", []⟩

def decoder (origin : Origin) : Decoder Feature := Decoder.record origin (record origin)

def ofText (text : String) : Except Error Feature :=
  Json.decodeText Json.depthLimit (decoder .text) text

def ofJson (j : Json) : Except Error Feature := Json.decodeTree (decoder .tree) j

end Feature

end Targeting

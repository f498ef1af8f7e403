import Targeting.Proofs.Conversion
import Targeting.Proofs.PartialEquivalence
/-!
# Values that go through JSON

A value is encoded as a JSON tree without a tag for its kind, and the kind is found
again when the tree is decoded. What comes back is the value with null in place of
every number that is not finite (`ofJson_toJson`), in whatever order the tree has the
keys. So rules and values come back as they were just if all their numbers are finite
(`decode_encode`).
-/

namespace Targeting

open Json (Decoder decodeTree)

/-! ## The part of a value that JSON keeps -/

mutual
/-- The value with null in place of each number in it that is not finite. -/
def Value.finitePart : Value → Value
  | .number x => if x.isFinite then .number x else .null
  | .array items => .array (itemsFinitePart items)
  | .object fields => .object (fieldsFinitePart fields)
  | v => v
termination_by structural v => v

def itemsFinitePart : List Value → List Value
  | [] => []
  | v :: vs => v.finitePart :: itemsFinitePart vs
termination_by structural vs => vs

def fieldsFinitePart : List (String × Value) → List (String × Value)
  | [] => []
  | (key, v) :: rest => (key, v.finitePart) :: fieldsFinitePart rest
termination_by structural fs => fs
end

theorem fieldsFinitePart_eq_map (fields : Fields) :
    fieldsFinitePart fields = fields.map fun f => (f.1, f.2.finitePart) := by
  induction fields with
  | nil => rfl
  | cons f rest ih => rw [fieldsFinitePart, ih, List.map_cons]

theorem keys_fieldsFinitePart (fields : Fields) :
    (fieldsFinitePart fields).map Prod.fst = fields.map Prod.fst := by
  rw [fieldsFinitePart_eq_map, List.map_map]
  rfl

mutual
theorem numbers_finitePart : ∀ v : Value, v.finitePart.numbers = v.numbers.filter (·.isFinite)
  | .null | .bool _ | .string _ => rfl
  | .number x => by
    by_cases hx : x.isFinite <;> simp [Value.finitePart, Value.numbers, hx]
  | .array items => itemsNumbers_finitePart items
  | .object fields => fieldsNumbers_finitePart fields
termination_by structural v => v

theorem itemsNumbers_finitePart : ∀ items : List Value,
    itemsNumbers (itemsFinitePart items) = (itemsNumbers items).filter (·.isFinite)
  | [] => rfl
  | v :: vs => by
    rw [itemsFinitePart, itemsNumbers, itemsNumbers, numbers_finitePart v, itemsNumbers_finitePart vs,
      List.filter_append]
termination_by structural items => items

theorem fieldsNumbers_finitePart : ∀ fields : Fields,
    fieldsNumbers (fieldsFinitePart fields) = (fieldsNumbers fields).filter (·.isFinite)
  | [] => rfl
  | (_, v) :: rest => by
    rw [fieldsFinitePart, fieldsNumbers, fieldsNumbers, numbers_finitePart v,
      fieldsNumbers_finitePart rest, List.filter_append]
termination_by structural fields => fields
end

mutual
theorem finitePart_eq_self : ∀ v : Value, (∀ x ∈ v.numbers, x.isFinite) → v.finitePart = v
  | .null, _ | .bool _, _ | .string _, _ => rfl
  | .number x, h => if_pos (h x (List.mem_singleton_self x))
  | .array items, h => congrArg Value.array (itemsFinitePart_eq_self items h)
  | .object fields, h => congrArg Value.object (fieldsFinitePart_eq_self fields h)
termination_by structural v => v

theorem itemsFinitePart_eq_self : ∀ items : List Value, (∀ x ∈ itemsNumbers items, x.isFinite) →
    itemsFinitePart items = items
  | [], _ => rfl
  | v :: vs, h => by
    rw [itemsNumbers, List.forall_mem_append] at h
    rw [itemsFinitePart, finitePart_eq_self v h.1, itemsFinitePart_eq_self vs h.2]
termination_by structural items => items

theorem fieldsFinitePart_eq_self : ∀ fields : Fields,
    (∀ x ∈ fieldsNumbers fields, x.isFinite) → fieldsFinitePart fields = fields
  | [], _ => rfl
  | (_, v) :: rest, h => by
    rw [fieldsNumbers, List.forall_mem_append] at h
    rw [fieldsFinitePart, finitePart_eq_self v h.1, fieldsFinitePart_eq_self rest h.2]
termination_by structural fields => fields
end

mutual
theorem finitePart_reordered : ∀ {v w : Value}, Reordered v w → Reordered v.finitePart w.finitePart
  | .null, _, .null => .null
  | .bool _, _, .bool b => .bool b
  | .string _, _, .string s => .string s
  | .number x, _, .number rfl => by
    unfold Value.finitePart
    split
    · exact .number rfl
    · exact .null
  | .array _, _, .array h => .array (itemsFinitePart_reordered h)
  | .object xs, _, .object hn h => by
    refine .object ?_ (fieldsFinitePart_reordered h)
    rw [keys_fieldsFinitePart]
    exact hn

theorem itemsFinitePart_reordered : ∀ {vs ws : List Value}, List.Forall₂ Reordered vs ws →
    List.Forall₂ Reordered (itemsFinitePart vs) (itemsFinitePart ws)
  | [], _, .nil => .nil
  | _ :: _, _, .cons h hs => .cons (finitePart_reordered h) (itemsFinitePart_reordered hs)

theorem fieldsFinitePart_reordered : ∀ {xs ys : Fields}, Paired Reordered xs ys →
    Paired Reordered (fieldsFinitePart xs) (fieldsFinitePart ys)
  | [], _, .nil => .nil
  | (_, _) :: _, zs, .cons h hs hp => by
    refine .cons (finitePart_reordered h) (fieldsFinitePart_reordered hs) ?_
    rw [fieldsFinitePart_eq_map zs, fieldsFinitePart_eq_map]
    exact hp.map _
end

/-! ## Decoding what was encoded -/

theorem set_of_not_mem {key : String} {fields : Fields} (h : key ∉ fields.map Prod.fst) (v : Value) :
    Fields.set key v fields = fields ++ [(key, v)] := by
  induction fields with
  | nil => rfl
  | cons f rest ih =>
    rw [List.map_cons, List.mem_cons, not_or] at h
    rw [Fields.set, if_neg (Ne.symm h.1), ih h.2, List.cons_append]

theorem foldl_set_of_nodup {pairs done : Fields} (h : ((done ++ pairs).map Prod.fst).Nodup) :
    pairs.foldl (fun fields p => Fields.set p.1 p.2 fields) done = done ++ pairs := by
  induction pairs generalizing done with
  | nil => simp
  | cons p rest ih =>
    have hp : p.1 ∉ done.map Prod.fst := by
      rw [List.map_append, List.map_cons, List.nodup_middle, List.nodup_cons, List.mem_append,
        not_or] at h
      exact h.1.1
    rw [List.foldl_cons, set_of_not_mem hp, ih (by simpa using h), List.append_assoc,
      List.singleton_append]

/-- Pairs in which no key is repeated are all kept, in their order. -/
theorem ofPairs_of_nodup {pairs : Fields} (h : (pairs.map Prod.fst).Nodup) :
    Fields.ofPairs pairs = pairs :=
  @foldl_set_of_nodup pairs [] h

mutual
theorem ofJson_toJson : ∀ v : Value, v.Keyed → Value.ofJson v.toJson = v.finitePart
  | .null, _ | .bool _, _ | .string _, _ => rfl
  | .number x, _ => by
    unfold Value.toJson Value.finitePart
    split <;> rfl
  | .array items, h => congrArg Value.array (valuesOfJson_toJson items h)
  | .object fields, h => by
    have hpairs := pairsOfJson_toJson fields h.2
    have hn : ((fieldsFinitePart fields).map Prod.fst).Nodup := by
      rw [keys_fieldsFinitePart]
      exact h.1
    rw [Value.toJson, Value.ofJson, hpairs, ofPairs_of_nodup hn, Value.finitePart]
termination_by structural v => v

theorem valuesOfJson_toJson : ∀ items : List Value, itemsKeyed items →
    valuesOfJson (valuesToJson items) = itemsFinitePart items
  | [], _ => rfl
  | v :: vs, h => by
    rw [valuesToJson, valuesOfJson, ofJson_toJson v h.1, valuesOfJson_toJson vs h.2, itemsFinitePart]
termination_by structural items => items

theorem pairsOfJson_toJson : ∀ fields : Fields, fieldsKeyed fields →
    pairsOfJson (fieldsToJson fields) = fieldsFinitePart fields
  | [], _ => rfl
  | (key, v) :: rest, h => by
    rw [fieldsToJson, pairsOfJson, ofJson_toJson v h.1, pairsOfJson_toJson rest h.2, fieldsFinitePart]
termination_by structural fields => fields
end

/-! ## What comes back -/

theorem Binary64.isFinite_eq_of_equal {x y : Binary64} (h : x.equal y) : x.isFinite = y.isFinite := by
  rcases interchangeable_of_equal h with rfl | ⟨hx, hy⟩
  · rfl
  · simp only [isZero, beq_iff_eq] at hx hy
    rw [isFinite, isFinite, hx, hy]

/-- Whether `w` is what comes back of `v`: its finite part, which is `v` itself, and
equal to `v`, just if all numbers are finite. -/
structure Value.ComesBackAs (v w : Value) : Prop where
  finitePart : Reordered v.finitePart w
  same_iff : Reordered v w ↔ ∀ x ∈ v.numbers, x.isFinite
  equal_iff : v.equal w ↔ ∀ x ∈ v.numbers, x.isFinite

theorem Reordered.comesBackAs {v v' : Value} (h : Reordered v v') : v.ComesBackAs v'.finitePart := by
  have hk : v.Keyed := h.keyed.1
  have hpart : Reordered v.finitePart v'.finitePart := finitePart_reordered h
  have hfinite : ∀ x ∈ v'.finitePart.numbers, x.isFinite := by
    rw [numbers_finitePart]
    intro x hx
    exact (List.mem_filter.1 hx).2
  have same_of_finite (hv : ∀ x ∈ v.numbers, x.isFinite) : Reordered v v'.finitePart := by
    rw [finitePart_eq_self v hv] at hpart
    exact hpart
  refine ⟨hpart, ⟨fun hsame => ?_, same_of_finite⟩, ⟨fun hequal => ?_, fun hv => ?_⟩⟩
  · refine (Alike.numbers hsame).forall_iff ?_ |>.2 hfinite
    rintro x _ rfl
    rfl
  · refine (alike_of_equal v hk hequal).numbers.forall_iff ?_ |>.2 hfinite
    intro x y hxy
    rw [Binary64.isFinite_eq_of_equal hxy]
  · have hself : v.equal v :=
      (equal_self_iff v hk).2 fun x hx => Binary64.isNaN_of_isFinite (hv x hx)
    rw [← (reordered_of_keyed v hk).equal_eq sameness_eq (same_of_finite hv)]
    exact hself

theorem decodeTree_toJson {v : Value} (h : v.Keyed) :
    decodeTree Decoder.value v.toJson = .ok v.finitePart := by
  rw [decodeTree, Json.mapError_eq_ok, Decoder.takesFirst_iff.1 Decoder.value_takesFirst,
    ofJson_toJson v h]

/-- What a value is encoded as is decoded, by the first of the variants of a value that
accepts it, as the finite part of the value, whatever order the tree has the keys in.
A rule is decoded in the same way. So encoding and then decoding changes nothing for
just those values and rules all of whose numbers are finite. -/
theorem decode_encode :
    (∀ v v' : Value, Reordered v v' → ∃ w, decodeTree Decoder.value v'.toJson = .ok w ∧
      Decoder.firstAccepted Decoder.value (.ofJson v'.toJson) = some w ∧ v.ComesBackAs w) ∧
    ∀ r r' : Rule, Reordered (.object r.conditions) (.object r'.conditions) → ∃ s,
      Rule.ofJson (Value.object r'.conditions).toJson = .ok s ∧
        (Value.object r.conditions).ComesBackAs (.object s.conditions) := by
  constructor
  · intro v v' h
    have hk : v'.Keyed := h.keyed.2
    refine ⟨v'.finitePart, decodeTree_toJson hk, ?_, h.comesBackAs⟩
    rw [← Decoder.toOption_value, Decoder.takesFirst_iff.1 Decoder.value_takesFirst,
      ofJson_toJson v' hk]
    rfl
  · intro r r' h
    refine ⟨⟨fieldsFinitePart r'.conditions⟩, ?_, h.comesBackAs⟩
    rw [Rule.ofJson_eq_ok, ofJson_toJson _ h.keyed.2]
    rfl

/-- A value with a NaN, an infinity and a negative zero, encoded in another order of its
keys, and a rule whose only number is a negative zero. -/
theorem decode_encode_negative_zero :
    let negative : Value := .number (.ofMagnitude true 0)
    let text : String × Value := ("s", .string "NaN")
    let v : Value := .object [("n", .array [.number .nan, negative, .number (.infinity true)]), text]
    let v' : Value := .object [text, ("n", .array [.number .nan, negative, .number (.infinity true)])]
    let w : Value := .object [text, ("n", .array [.null, negative, .null])]
    let r : Rule := ⟨[("n", .object [("$lt", negative)])]⟩
    (Reordered v v' ∧ decodeTree Decoder.value v'.toJson = .ok w ∧ v.ComesBackAs w ∧
      ¬Reordered v w ∧ v.equal w = false) ∧
    Reordered (.object r.conditions) (.object r.conditions) ∧
      Rule.ofJson (Value.object r.conditions).toJson = .ok r ∧ r.equal r := by
  intro negative text v v' w r
  obtain ⟨hvalues, hrules⟩ := decode_encode
  have hv : Reordered v v' := .object (by decide)
    (.cons (.array (.cons (.number rfl) (.cons (.number rfl) (.cons (.number rfl) .nil))))
      (.cons (.string "NaN") .nil (.refl _)) (.swap ..))
  have hnan : ¬∀ x ∈ v.numbers, x.isFinite := by
    intro h
    exact absurd (h .nan (by decide)) (by decide)
  have hr : Reordered (.object r.conditions) (.object r.conditions) :=
    .object (by decide) (.cons (.object (by decide) (.cons (.number rfl) .nil (.refl _))) .nil (.refl _))
  have hnumbers : ∀ x ∈ (Value.object r.conditions).numbers, x.isFinite := by decide
  obtain ⟨u, hu, -, hback⟩ := hvalues v v' hv
  obtain ⟨s, hs, hrule⟩ := hrules r r hr
  have huw : u = w := by
    rw [decodeTree_toJson hv.keyed.2] at hu
    cases hu
    rfl
  have hsr : s = r := by
    rw [Rule.ofJson_eq_ok, ofJson_toJson _ hr.keyed.1, finitePart_eq_self _ hnumbers] at hs
    cases hs
    rfl
  subst huw hsr
  refine ⟨⟨hv, hu, hback, mt hback.same_iff.1 hnan, ?_⟩, hr, hs, hrule.equal_iff.2 hnumbers⟩
  rw [Bool.eq_false_iff]
  exact mt hback.equal_iff.1 hnan

end Targeting

import Targeting.Proofs.DeepEquality
import Targeting.Proofs.Paths
/-!
# Rules moved under a path

A rule can be moved under a path: every path that it names then starts with that
path. The rule that is moved comes to the same for a document as the rule itself
for the value that the path leads to (`evaluate_under`). If there is no such value
that is null, which has nothing at any path. No two keys become one, and none
becomes a combinator or stops being one.
-/

namespace Targeting

/-! ## Rules under a path -/

/-- The key that names under `p` what `name` names. Combinators stay. -/
def keyUnder (p name : String) : String :=
  match Combinator.ofName? name with
  | none => p ++ "." ++ name
  | some _ => name

mutual
/-- The keys of a rule, and of the rules that its combinators hold, under `p`.
Conditions stay, and so does what a combinator does not take. -/
def fieldsUnder (p : String) : List (String × Value) → List (String × Value)
  | [] => []
  | f :: rest => fieldUnder p f :: fieldsUnder p rest
termination_by structural fields => fields

def fieldUnder (p : String) : String × Value → String × Value
  | (name, c) =>
    (keyUnder p name,
      match Combinator.ofName? name with
      | none => c
      | some .not => ruleUnder p c
      | some _ => listUnder p c)
termination_by structural f => f

def ruleUnder (p : String) : Value → Value
  | .object fields => .object (fieldsUnder p fields)
  | c => c
termination_by structural c => c

/-- A list in which something is no rule is not looked into. -/
def listUnder (p : String) : Value → Value
  | .array rules => .array (if rules.all Value.isObject then rulesUnder p rules else rules)
  | c => c
termination_by structural c => c

def rulesUnder (p : String) : List Value → List Value
  | [] => []
  | r :: rs => ruleUnder p r :: rulesUnder p rs
termination_by structural rs => rs
end

def Rule.under (p : String) (r : Rule) : Rule := ⟨fieldsUnder p r.conditions⟩

theorem rulesUnder_eq_map (p : String) (rules : List Value) : rulesUnder p rules = rules.map (ruleUnder p) := by
  induction rules with
  | nil => rfl
  | cons r rs ih => rw [rulesUnder, ih, List.map_cons]

theorem isObject_ruleUnder (p : String) (c : Value) : (ruleUnder p c).isObject = c.isObject := by
  cases c <;> rfl

@[simp]
theorem all_isObject_rulesUnder (p : String) (rules : List Value) :
    (rulesUnder p rules).all Value.isObject = rules.all Value.isObject := by
  simp [rulesUnder_eq_map, Function.comp_def, isObject_ruleUnder]

/-! ## Keys -/

/-- No combinator has a dot in its name. -/
theorem Combinator.ofName?_of_dot {name : String} (h : '.' ∈ name.toList) : ofName? name = none := by
  unfold ofName?
  split
  · exact absurd h (by decide)
  · exact absurd h (by decide)
  · exact absurd h (by decide)
  · exact absurd h (by decide)
  · rfl

theorem ofName?_append_dot (p name : String) : Combinator.ofName? (p ++ "." ++ name) = none :=
  Combinator.ofName?_of_dot (by simp)

theorem ofName?_keyUnder (p name : String) :
    Combinator.ofName? (keyUnder p name) = Combinator.ofName? name := by
  unfold keyUnder
  split
  · next hn => rw [hn, ofName?_append_dot]
  · rfl

theorem keyUnder_injective (p : String) : Function.Injective (keyUnder p) := by
  intro a b h
  -- what names a combinator still does, so both keys do or neither does
  have hn : Combinator.ofName? a = Combinator.ofName? b := by
    rw [← ofName?_keyUnder p a, h, ofName?_keyUnder]
  unfold keyUnder at h
  rw [hn] at h
  cases hb : Combinator.ofName? b with
  | none =>
    rw [hb] at h
    simpa using h
  | some combinator =>
    rw [hb] at h
    exact h

theorem keys_fieldsUnder (p : String) (fields : Fields) :
    (fieldsUnder p fields).map Prod.fst = (fields.map Prod.fst).map (keyUnder p) := by
  induction fields with
  | nil => rfl
  | cons f rest ih => rw [fieldsUnder, List.map_cons, ih, List.map_cons, List.map_cons, fieldUnder]

mutual
theorem fieldsKeyed_under (p : String) : ∀ fields : Fields, fieldsKeyed fields →
    fieldsKeyed (fieldsUnder p fields)
  | [], _ => trivial
  | (name, c) :: rest, h => ⟨fieldKeyed_under p (name, c) h.1, fieldsKeyed_under p rest h.2⟩
termination_by structural fields => fields

theorem fieldKeyed_under (p : String) : ∀ f : String × Value, f.2.Keyed → (fieldUnder p f).2.Keyed
  | (name, c), h => by
    simp only [fieldUnder]
    cases Combinator.ofName? name with
    | none => exact h
    | some combinator =>
      cases combinator with
      | not => exact ruleKeyed_under p c h
      | _ => exact listKeyed_under p c h
termination_by structural f => f

theorem ruleKeyed_under (p : String) : ∀ c : Value, c.Keyed → (ruleUnder p c).Keyed
  | .object fields, h => by
    refine ⟨?_, fieldsKeyed_under p fields h.2⟩
    rw [keys_fieldsUnder]
    exact h.1.map (keyUnder_injective p)
  | .null, h | .bool _, h | .number _, h | .string _, h | .array _, h => h
termination_by structural c => c

theorem listKeyed_under (p : String) : ∀ c : Value, c.Keyed → (listUnder p c).Keyed
  | .array rules, h => by
    simp only [listUnder]
    split
    · exact rulesKeyed_under p rules h
    · exact h
  | .null, h | .bool _, h | .number _, h | .string _, h | .object _, h => h
termination_by structural c => c

theorem rulesKeyed_under (p : String) : ∀ rules : List Value, itemsKeyed rules →
    itemsKeyed (rulesUnder p rules)
  | [], _ => trivial
  | r :: rs, h => ⟨ruleKeyed_under p r h.1, rulesKeyed_under p rs h.2⟩
termination_by structural rules => rules
end

/-! ## Tests -/

/-- Whether `v` has at every path what the document has under `p`. -/
def HoldsAt (p : String) (d v : Value) : Prop :=
  ∀ name : String, (Path.ofText (p ++ "." ++ name)).resolve d = (Path.ofText name).resolve v

section
variable [PatternEngine] {χ : Type} (k : Checks χ) {p : String} {d v : Value}

mutual
theorem keys_under (h : HoldsAt p d v) : ∀ fields : Fields,
    Evaluation.keys k (fieldsUnder p fields) d = Evaluation.keys k fields v
  | [] => rfl
  | f :: rest => by
    rw [fieldsUnder, Evaluation.keys, Evaluation.keys, key_under h f, keys_under h rest]
termination_by structural fields => fields

theorem key_under (h : HoldsAt p d v) : ∀ f : String × Value,
    Evaluation.key k (fieldUnder p f) d = Evaluation.key k f v
  | (name, c) => by
    simp only [fieldUnder, Evaluation.key, ofName?_keyUnder]
    cases hn : Combinator.ofName? name with
    | none => simp only [keyUnder, hn, h name]
    | some combinator =>
      cases combinator with
      | and => exact allOf_under h c
      | or => exact anyOf_under h c
      | nor => exact noneOf_under h c
      | not => exact notOne_under h c
termination_by structural f => f

theorem allOf_under (h : HoldsAt p d v) : ∀ c : Value,
    Evaluation.allOf k (listUnder p c) d = Evaluation.allOf k c v
  | .array rules => by
    by_cases hr : rules.all Value.isObject
    · simp only [listUnder, Evaluation.allOf, hr, if_true, all_isObject_rulesUnder,
        everyRule_under h rules]
    · simp only [listUnder, Evaluation.allOf, hr, if_false, Bool.false_eq_true]
  | .null | .bool _ | .number _ | .string _ | .object _ => rfl
termination_by structural c => c

theorem anyOf_under (h : HoldsAt p d v) : ∀ c : Value,
    Evaluation.anyOf k (listUnder p c) d = Evaluation.anyOf k c v
  | .array rules => by
    -- `$or` alone asks whether its list is empty
    have he : (rulesUnder p rules).isEmpty = rules.isEmpty := by
      rw [rulesUnder_eq_map, List.isEmpty_map]
    by_cases hr : rules.all Value.isObject
    · simp only [listUnder, Evaluation.anyOf, hr, if_true, all_isObject_rulesUnder, he,
        someRule_under h rules]
    · simp only [listUnder, Evaluation.anyOf, hr, if_false, Bool.false_eq_true]
  | .null | .bool _ | .number _ | .string _ | .object _ => rfl
termination_by structural c => c

theorem noneOf_under (h : HoldsAt p d v) : ∀ c : Value,
    Evaluation.noneOf k (listUnder p c) d = Evaluation.noneOf k c v
  | .array rules => by
    by_cases hr : rules.all Value.isObject
    · simp only [listUnder, Evaluation.noneOf, hr, if_true, all_isObject_rulesUnder,
        someRule_under h rules]
    · simp only [listUnder, Evaluation.noneOf, hr, if_false, Bool.false_eq_true]
  | .null | .bool _ | .number _ | .string _ | .object _ => rfl
termination_by structural c => c

theorem notOne_under (h : HoldsAt p d v) : ∀ c : Value,
    Evaluation.notOne k (ruleUnder p c) d = Evaluation.notOne k c v
  | .object fields => by
    rw [ruleUnder, Evaluation.notOne, Evaluation.notOne, keys_under h fields]
  | .null | .bool _ | .number _ | .string _ | .array _ => rfl
termination_by structural c => c

theorem everyRule_under (h : HoldsAt p d v) : ∀ rules : List Value,
    Evaluation.everyRule k (rulesUnder p rules) d = Evaluation.everyRule k rules v
  | [] => rfl
  | r :: rs => by
    rw [rulesUnder, Evaluation.everyRule, Evaluation.everyRule, listedRule_under h r,
      everyRule_under h rs]
termination_by structural rules => rules

theorem someRule_under (h : HoldsAt p d v) : ∀ rules : List Value,
    Evaluation.someRule k (rulesUnder p rules) d = Evaluation.someRule k rules v
  | [] => rfl
  | r :: rs => by
    rw [rulesUnder, Evaluation.someRule, Evaluation.someRule, listedRule_under h r,
      someRule_under h rs]
termination_by structural rules => rules

theorem listedRule_under (h : HoldsAt p d v) : ∀ r : Value,
    Evaluation.listedRule k (ruleUnder p r) d = Evaluation.listedRule k r v
  | .object fields => by
    rw [ruleUnder, Evaluation.listedRule, Evaluation.listedRule, keys_under h fields]
  | .null | .bool _ | .number _ | .string _ | .array _ => rfl
termination_by structural r => r
end

end

theorem Rule.evaluate_under_of_holdsAt [PatternEngine] (r : Rule) {p : String} {d v : Value} (h : HoldsAt p d v) :
    (r.under p).evaluate d = r.evaluate v := by
  rw [evaluate, evaluate, Evaluation.rule, Evaluation.rule, under, keys_under _ h]

/-- A rule that is moved under a path has for a document the report that it has for
the value at that path, or for null if there is none. To move it keeps its keys
apart, at any depth. So the order in which the keys of the moved rule and of the
document are visited counts for nothing but the order of the problems. -/
theorem evaluate_under [PatternEngine] (r : Rule) (p : String) (d : Value) :
    let base := ((Path.ofText p).resolve d).getD .null
    (r.under p).evaluate d = r.evaluate base ∧
    ((Value.object r.conditions).Keyed → (Value.object (r.under p).conditions).Keyed) ∧
    ∀ (s : Rule) (d' : Value), Reordered (.object (r.under p).conditions) (.object s.conditions) →
      Reordered d d' → (r.evaluate base).Agree (s.evaluate d') := by
  intro base
  have hbase : HoldsAt p d base := fun name => Path.resolve_ofText_append_getD p name d
  have heq : (r.under p).evaluate d = r.evaluate base := r.evaluate_under_of_holdsAt hbase
  refine ⟨heq, ruleKeyed_under p (.object r.conditions), ?_⟩
  intro s d' hs hd
  -- the moved rule and `s` have the same keys, so they are compared, not `r` and `s`
  rw [← heq]
  exact evaluate_alike sameness_eq hs hd

/-- A rule with a path of two keys, a list of rules, a list that is none, and an
unknown operator, under a path of two keys. It is moved next to a document in which
that path leads to a value, and next to one in which it leads nowhere. -/
theorem evaluate_under_home :
    let r : Rule := ⟨[("$or", .array [.object [("city.name", .string "Oslo")],
      .object [("zip", .object [("$gtt", .null)])]]), ("$nor", .array [.null])]⟩
    let moved : Rule := ⟨[("$or", .array [.object [("user.home.city.name", .string "Oslo")],
      .object [("user.home.zip", .object [("$gtt", .null)])]]), ("$nor", .array [.null])]⟩
    let turned : Rule := ⟨[("$nor", .array [.null]),
      ("$or", .array [.object [("user.home.city.name", .string "Oslo")],
        .object [("user.home.zip", .object [("$gtt", .null)])]])]⟩
    let home : Value := .object [("city", .object [("name", .string "Bergen")])]
    let d : Value := .object [("user", .object [("home", home)])]
    r.under "user.home" = moved ∧ moved.evaluate d = r.evaluate home ∧
      moved.evaluate home = r.evaluate .null ∧
      ((Value.object r.conditions).Keyed ∧ (Value.object moved.conditions).Keyed) ∧
      Reordered (.object moved.conditions) (.object turned.conditions) ∧ Reordered d d ∧
      (r.evaluate home).Agree (turned.evaluate d) := by
  intro r moved turned home d
  have hmoved : r.under "user.home" = moved := rfl
  have hr : (Value.object r.conditions).Keyed := by
    simp [r, Value.Keyed, fieldsKeyed, itemsKeyed]
  have hd : Reordered d d := reordered_of_keyed d (by simp [d, home, Value.Keyed, fieldsKeyed])
  have hthere := evaluate_under r "user.home" d
  have hnowhere := evaluate_under r "user.home" home
  rw [hmoved] at hthere hnowhere
  have hmovedKeyed := hthere.2.1 hr
  have hturned : Reordered (.object moved.conditions) (.object turned.conditions) := by
    obtain ⟨hn, hor, hnor, -⟩ := hmovedKeyed
    exact .object hn (.cons (reordered_of_keyed _ hor)
      (.cons (reordered_of_keyed _ hnor) .nil (.refl _)) (.swap ..))
  exact ⟨hmoved, hthere.1, hnowhere.1, ⟨hr, hmovedKeyed⟩, hturned, hd,
    hthere.2.2 turned d hturned hd⟩

end Targeting

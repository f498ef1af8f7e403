import Targeting.Proofs.DeepEquality
/-!
# The paths that a rule names

A rule sees a document only through the paths that it names: documents that have
the same values at these, the order of keys apart, get the same report, problems and
their order included (`evaluate_eq_of_paths`). So an attribute that no named path leads
to, through or into can be added, removed or changed without a difference.
-/

namespace Targeting

/-! ## Named paths -/

mutual
/-- The paths that the keys of a rule name, and those of the rules that its
combinators hold. Conditions name none. -/
def keysPaths : List (String × Value) → List Path
  | [] => []
  | f :: rest => keyPaths f ++ keysPaths rest
termination_by structural fields => fields

def keyPaths : String × Value → List Path
  | (name, c) =>
    match Combinator.ofName? name with
    | none => [.ofText name]
    | some .not => rulePaths c
    | some _ => listPaths c
termination_by structural f => f

def rulePaths : Value → List Path
  | .object fields => keysPaths fields
  | _ => []
termination_by structural c => c

/-- A list in which something is no rule is not looked into. -/
def listPaths : Value → List Path
  | .array rules => if rules.all Value.isObject then rulesPaths rules else []
  | _ => []
termination_by structural c => c

def rulesPaths : List Value → List Path
  | [] => []
  | r :: rs => rulePaths r ++ rulesPaths rs
termination_by structural rs => rs
end

def Rule.paths (r : Rule) : List Path := keysPaths r.conditions

/-- Whether two documents have the same at every path, be it a value or none. The
keys of a value may be visited in different orders. -/
def AgreeOn (paths : List Path) (d d' : Value) : Prop :=
  ∀ p ∈ paths, Option.Rel Reordered (p.resolve d) (p.resolve d')

theorem agreeOn_append {ps qs : List Path} {d d' : Value} :
    AgreeOn (ps ++ qs) d d' ↔ AgreeOn ps d d' ∧ AgreeOn qs d d' :=
  List.forall_mem_append

theorem agreeOn_of_reordered {d d' : Value} (h : Reordered d d') (paths : List Path) :
    AgreeOn paths d d' :=
  fun p _ => Alike.resolve p h

/-! ## Tests of documents that agree -/

section
variable {χ : Type} (k : Checks χ)

/-- Checks put together from the same parts are the same. -/
theorem eq_related : k.Related k (· = ·) where
  answer _ := rfl
  next hp hf := congrArg₂ k.next hp (funext hf)
  enter hp := congrArg k.enter hp
  fail _ := rfl

variable [PatternEngine]

-- The induction is along the rule, whose keys are visited in one order. Values and
-- documents change at each step: from a document to the value at a path, and from an array
-- to its items, which `$elemMatch` takes for documents.
mutual
theorem condition_eq_of_reordered : ∀ c : Value, c.Keyed → ∀ {v v' : Option Value},
    Option.Rel Reordered v v' → Evaluation.condition k c v = Evaluation.condition k c v'
  | .object fields, hc, v, v', hv => by
    simp only [Evaluation.condition]
    split
    · exact congrArg k.enter (operators_eq_of_reordered fields hc.2 hv)
    · exact congrArg k.answer (Alike.equalIfPresent_eq sameness_eq hv (reordered_of_keyed _ hc))
  | .null, hc, _, _, hv | .bool _, hc, _, _, hv | .number _, hc, _, _, hv
  | .string _, hc, _, _, hv | .array _, hc, _, _, hv =>
    congrArg k.answer (Alike.equalIfPresent_eq sameness_eq hv (reordered_of_keyed _ hc))
termination_by structural c => c

theorem operators_eq_of_reordered : ∀ fields : Fields, fieldsKeyed fields →
    ∀ {v v' : Option Value}, Option.Rel Reordered v v' →
      Evaluation.operators k fields v = Evaluation.operators k fields v'
  | [], _, _, _, _ => rfl
  | (name, c) :: rest, hk, _, _, hv =>
    (eq_related k).both (operator_eq_of_reordered (name, c) hk.1 hv)
      (operators_eq_of_reordered rest hk.2 hv)
termination_by structural fields => fields

theorem operator_eq_of_reordered : ∀ f : String × Value, f.2.Keyed → ∀ {v v' : Option Value},
    Option.Rel Reordered v v' → Evaluation.operator k f v = Evaluation.operator k f v'
  | (name, operand), hk, v, v', hv => by
    simp only [Evaluation.operator]
    cases Operator.ofName? name with
    | none => rfl
    | some op =>
      cases op with
      | not => exact (eq_related k).not (condition_eq_of_reordered operand hk hv)
      | size =>
        refine onItems_of_alike k rfl hv fun {xs ys} hitems => ?_
        rw [hitems.length_eq]
      | elemMatch =>
        refine onItems_of_alike k rfl hv fun hitems => (eq_related k).any ?_
        exact hitems.imp fun _ _ h => element_eq_of_reordered operand hk h
      | all => exact containsAll_eq_of_reordered operand hk hv
      | _ => exact simple_eq_of_alike k sameness_eq _ (reordered_of_keyed operand hk) hv
termination_by structural f => f

theorem element_eq_of_reordered : ∀ c : Value, c.Keyed → ∀ {item item' : Value},
    Reordered item item' → Evaluation.element k c item = Evaluation.element k c item'
  | .object fields, hc, item, item', h => by
    simp only [Evaluation.element, h.isObject_eq]
    split
    · exact congrArg k.enter (operators_eq_of_reordered fields hc.2 (.some h))
    · split
      · exact congrArg k.enter (keys_eq_of_agreeOn fields hc.2 (agreeOn_of_reordered h _))
      · exact congrArg k.answer (h.equal_eq sameness_eq (reordered_of_keyed _ hc))
  | .null, hc, _, _, h | .bool _, hc, _, _, h | .number _, hc, _, _, h
  | .string _, hc, _, _, h | .array _, hc, _, _, h =>
    congrArg k.answer (h.equal_eq sameness_eq (reordered_of_keyed _ hc))
termination_by structural c => c

theorem containsAll_eq_of_reordered : ∀ c : Value, c.Keyed → ∀ {v v' : Option Value},
    Option.Rel Reordered v v' → Evaluation.containsAll k c v = Evaluation.containsAll k c v'
  | .array conditions, hc, _, _, hv =>
    onItems_of_alike k rfl hv fun hitems => hasItems_eq_of_reordered conditions hc hitems
  | .null, _, _, _, _ | .bool _, _, _, _, _ | .number _, _, _, _, _ | .string _, _, _, _, _
  | .object _, _, _, _, _ => rfl
termination_by structural c => c

theorem hasItems_eq_of_reordered : ∀ cs : List Value, itemsKeyed cs → ∀ {items items' : List Value},
    List.Forall₂ Reordered items items' →
      Evaluation.hasItems k cs items = Evaluation.hasItems k cs items'
  | [], _, _, _, _ => rfl
  | c :: cs, hk, _, _, h =>
    (eq_related k).andThen
      ((eq_related k).any (h.imp fun _ _ hitem => condition_eq_of_reordered c hk.1 (.some hitem)))
      (hasItems_eq_of_reordered cs hk.2 h)
termination_by structural cs => cs

theorem keys_eq_of_agreeOn : ∀ fields : Fields, fieldsKeyed fields → ∀ {d d' : Value},
    AgreeOn (keysPaths fields) d d' → Evaluation.keys k fields d = Evaluation.keys k fields d'
  | [], _, _, _, _ => rfl
  | (name, c) :: rest, hk, _, _, h => by
    rw [keysPaths, agreeOn_append] at h
    exact (eq_related k).both (key_eq_of_agreeOn (name, c) hk.1 h.1)
      (keys_eq_of_agreeOn rest hk.2 h.2)
termination_by structural fields => fields

theorem key_eq_of_agreeOn : ∀ f : String × Value, f.2.Keyed → ∀ {d d' : Value},
    AgreeOn (keyPaths f) d d' → Evaluation.key k f d = Evaluation.key k f d'
  | (name, c), hk, d, d', h => by
    simp only [keyPaths] at h
    simp only [Evaluation.key]
    cases hn : Combinator.ofName? name with
    | none =>
      rw [hn] at h
      exact condition_eq_of_reordered c hk (h _ (List.mem_singleton_self _))
    | some combinator =>
      rw [hn] at h
      cases combinator with
      | and => exact allOf_eq_of_agreeOn c hk h
      | or => exact anyOf_eq_of_agreeOn c hk h
      | nor => exact noneOf_eq_of_agreeOn c hk h
      | not => exact notOne_eq_of_agreeOn c hk h
termination_by structural f => f

theorem allOf_eq_of_agreeOn : ∀ c : Value, c.Keyed → ∀ {d d' : Value},
    AgreeOn (listPaths c) d d' → Evaluation.allOf k c d = Evaluation.allOf k c d'
  | .array rules, hk, _, _, h => by
    rw [listPaths] at h
    simp only [Evaluation.allOf]
    split
    · next hr =>
      rw [if_pos hr] at h
      exact everyRule_eq_of_agreeOn rules hk h
    · rfl
  | .null, _, _, _, _ | .bool _, _, _, _, _ | .number _, _, _, _, _ | .string _, _, _, _, _
  | .object _, _, _, _, _ => rfl
termination_by structural c => c

theorem anyOf_eq_of_agreeOn : ∀ c : Value, c.Keyed → ∀ {d d' : Value},
    AgreeOn (listPaths c) d d' → Evaluation.anyOf k c d = Evaluation.anyOf k c d'
  | .array rules, hk, _, _, h => by
    rw [listPaths] at h
    simp only [Evaluation.anyOf]
    split
    · next hr =>
      rw [if_pos hr] at h
      rw [someRule_eq_of_agreeOn rules hk h]
    · rfl
  | .null, _, _, _, _ | .bool _, _, _, _, _ | .number _, _, _, _, _ | .string _, _, _, _, _
  | .object _, _, _, _, _ => rfl
termination_by structural c => c

theorem noneOf_eq_of_agreeOn : ∀ c : Value, c.Keyed → ∀ {d d' : Value},
    AgreeOn (listPaths c) d d' → Evaluation.noneOf k c d = Evaluation.noneOf k c d'
  | .array rules, hk, _, _, h => by
    rw [listPaths] at h
    simp only [Evaluation.noneOf]
    split
    · next hr =>
      rw [if_pos hr] at h
      rw [someRule_eq_of_agreeOn rules hk h]
    · rfl
  | .null, _, _, _, _ | .bool _, _, _, _, _ | .number _, _, _, _, _ | .string _, _, _, _, _
  | .object _, _, _, _, _ => rfl
termination_by structural c => c

theorem notOne_eq_of_agreeOn : ∀ c : Value, c.Keyed → ∀ {d d' : Value},
    AgreeOn (rulePaths c) d d' → Evaluation.notOne k c d = Evaluation.notOne k c d'
  | .object fields, hk, _, _, h => by
    rw [Evaluation.notOne, Evaluation.notOne, keys_eq_of_agreeOn fields hk.2 h]
  | .null, _, _, _, _ | .bool _, _, _, _, _ | .number _, _, _, _, _ | .string _, _, _, _, _
  | .array _, _, _, _, _ => rfl
termination_by structural c => c

theorem everyRule_eq_of_agreeOn : ∀ rules : List Value, itemsKeyed rules → ∀ {d d' : Value},
    AgreeOn (rulesPaths rules) d d' →
      Evaluation.everyRule k rules d = Evaluation.everyRule k rules d'
  | [], _, _, _, _ => rfl
  | r :: rs, hk, _, _, h => by
    rw [rulesPaths, agreeOn_append] at h
    exact (eq_related k).andThen (listedRule_eq_of_agreeOn r hk.1 h.1)
      (everyRule_eq_of_agreeOn rs hk.2 h.2)
termination_by structural rules => rules

theorem someRule_eq_of_agreeOn : ∀ rules : List Value, itemsKeyed rules → ∀ {d d' : Value},
    AgreeOn (rulesPaths rules) d d' →
      Evaluation.someRule k rules d = Evaluation.someRule k rules d'
  | [], _, _, _, _ => rfl
  | r :: rs, hk, _, _, h => by
    rw [rulesPaths, agreeOn_append] at h
    exact (eq_related k).orElse (listedRule_eq_of_agreeOn r hk.1 h.1)
      (someRule_eq_of_agreeOn rs hk.2 h.2)
termination_by structural rules => rules

theorem listedRule_eq_of_agreeOn : ∀ r : Value, r.Keyed → ∀ {d d' : Value},
    AgreeOn (rulePaths r) d d' → Evaluation.listedRule k r d = Evaluation.listedRule k r d'
  | .object fields, hk, _, _, h => by
    rw [Evaluation.listedRule, Evaluation.listedRule, keys_eq_of_agreeOn fields hk.2 h]
  | .null, _, _, _, _ | .bool _, _, _, _, _ | .number _, _, _, _, _ | .string _, _, _, _, _
  | .array _, _, _, _, _ => rfl
termination_by structural r => r
end

end

theorem Rule.evaluate_eq_of_agreeOn [PatternEngine] {r : Rule} (hr : (Value.object r.conditions).Keyed)
    {d d' : Value} (h : AgreeOn r.paths d d') : r.evaluate d = r.evaluate d' := by
  rw [Rule.evaluate, Rule.evaluate, Evaluation.rule, Evaluation.rule, keys_eq_of_agreeOn _ _ hr.2 h]

/-! ## Changed attributes -/

/-- Whether two values that may be absent differ at most in what `keys` lead to, and
in the order of keys: what is there may be in one and not in the other, or be any two
values in both. -/
inductive ChangedAt : List String → Option Value → Option Value → Prop
  | here (v w : Option Value) : ChangedAt [] v w
  | inside {key : String} {keys : List String} {xs ys : Fields} :
    ChangedAt keys (xs.lookup key) (ys.lookup key) →
    (∀ other, other ≠ key → Option.Rel Reordered (xs.lookup other) (ys.lookup other)) →
    ChangedAt (key :: keys) (some (.object xs)) (some (.object ys))

/-- A change is not seen from a path that leads neither through it nor to
something that holds it. -/
theorem ChangedAt.follow_rel {keys : List String} {v w : Option Value} (h : ChangedAt keys v w)
    {path : List String} (hk : ¬ keys <+: path) (hp : ¬ path <+: keys) :
    Option.Rel Reordered (v.bind (Path.follow path)) (w.bind (Path.follow path)) := by
  induction h generalizing path with
  | here v w => exact absurd List.nil_prefix hk
  | @inside key keys xs ys _ hne ih =>
    cases path with
    | nil => exact absurd List.nil_prefix hp
    | cons first path =>
      simp only [Option.bind_some, Path.follow]
      by_cases hf : first = key
      · subst hf
        simp only [List.cons_prefix_cons, true_and] at hk hp
        exact ih hk hp
      · have hother := hne first hf
        generalize xs.lookup first = x, ys.lookup first = y at hother ⊢
        cases hother with
        | none => exact .none
        | some h => exact Targeting.follow_rel path h

/-- A rule tells documents apart only by what the paths that it names lead to, and not
by the order of keys there. In particular it does not see that an attribute is added,
removed or changed if that lies neither on the way to a named value nor inside of one. -/
theorem evaluate_eq_of_paths [PatternEngine] (r : Rule) (hr : (Value.object r.conditions).Keyed)
    (d d' : Value) :
    (AgreeOn r.paths d d' → r.evaluate d = r.evaluate d') ∧
    ∀ keys : List String, ChangedAt keys (some d) (some d') →
      (∀ p ∈ r.paths, ¬ keys <+: p.keys ∧ ¬ p.keys <+: keys) → r.evaluate d = r.evaluate d' := by
  constructor
  · intro h
    exact Rule.evaluate_eq_of_agreeOn hr h
  · intro keys hc hp
    apply Rule.evaluate_eq_of_agreeOn hr
    intro p hmem
    obtain ⟨hk, hp⟩ := hp p hmem
    exact hc.follow_rel hk hp

/-- A rule about the plan of a user does not see that the user gets an age, nor that the keys
of the plan change places. -/
theorem evaluate_eq_of_paths_age :
    let r : Rule := ⟨[("$nor", .array [.object [("user.plan",
        .object [("$ne", .object [("name", .string "pro"), ("seats", .ofNat 5)])])]]),
      ("user.plan.name", .object [("$gtt", .null), ("$ltt", .null)])]⟩
    let plan : Value := .object [("name", .string "pro"), ("seats", .ofNat 5)]
    let turned : Value := .object [("seats", .ofNat 5), ("name", .string "pro")]
    let d : Value := .object [("user", .object [("plan", plan)])]
    let d' : Value := .object [("user", .object [("age", .ofNat 7), ("plan", turned)])]
    (Value.object r.conditions).Keyed ∧
      (AgreeOn r.paths d d' ∧ r.evaluate d = r.evaluate d') ∧
      (ChangedAt ["user", "age"] (some d) (some d') ∧
        (∀ p ∈ r.paths, ¬ ["user", "age"] <+: p.keys ∧ ¬ p.keys <+: ["user", "age"]) ∧
        r.evaluate d = r.evaluate d') ∧
      r.evaluate d' = ⟨false, [.unknownOperator "$gtt", .unknownOperator "$ltt"]⟩ := by
  intro r plan turned d d'
  have hr : (Value.object r.conditions).Keyed := by
    simp [r, Value.Keyed, fieldsKeyed, itemsKeyed, Value.ofNat]
  have hpaths : r.paths = [.ofText "user.plan", .ofText "user.plan.name"] := by rfl
  have hplan : Reordered plan turned := .object (by decide)
    (.cons (.string "pro") (.cons (.number rfl) .nil (.refl _)) (.swap ..))
  have ha : AgreeOn r.paths d d' := by
    rw [hpaths]
    intro p hp
    simp only [List.mem_cons, List.not_mem_nil, or_false] at hp
    rcases hp with rfl | rfl
    · exact .some hplan
    · exact .some (.string "pro")
  have hage : ChangedAt ["age"] (some (.object [("plan", plan)]))
      (some (.object [("age", .ofNat 7), ("plan", turned)])) := by
    refine .inside (.here _ _) ?_
    intro other hne
    simp only [List.lookup_cons, List.lookup_nil, beq_eq_false_iff_ne.2 hne]
    split
    · exact .some hplan
    · exact .none
  have hc : ChangedAt ["user", "age"] (some d) (some d') := by
    refine .inside hage ?_
    intro other hne
    simp only [List.lookup_cons, List.lookup_nil, beq_eq_false_iff_ne.2 hne]
    exact .none
  have hp : ∀ p ∈ r.paths, ¬ ["user", "age"] <+: p.keys ∧ ¬ p.keys <+: ["user", "age"] := by
    rw [hpaths]
    decide
  have heq := evaluate_eq_of_paths r hr d d'
  exact ⟨hr, ⟨ha, heq.1 ha⟩, ⟨hc, hp, heq.2 _ hc hp⟩, by decide +kernel⟩

end Targeting

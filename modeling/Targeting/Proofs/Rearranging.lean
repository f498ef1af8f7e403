import Targeting.Proofs.Bounds
import Targeting.Proofs.Congruence
/-!
# Lists as sets

In the lists that an evaluation goes through the order of the members does not count, nor
how often one of them is there: those of `$and`, `$or` and `$nor`, of `$all`, and of `$in` and
`$nin`, wherever they are in a rule. A rule gives the same answer if any of them are
rearranged (`evaluate_rearranged`), as long as it is not nested too deep: a list that is
decided early need not meet a member that would have the whole rule refused. Lists that are
compared are left as they are.
-/

namespace Targeting

/-! ## Lists with the same members -/

/-- Whether a list is another up to the order of its members and to how often they are
there. -/
def SameMembers (vs ws : List Value) : Prop := ∀ v, v ∈ vs ↔ v ∈ ws

namespace SameMembers

variable {vs ws : List Value}

theorem of_perm (h : vs.Perm ws) : SameMembers vs ws := fun _ => h.mem_iff

theorem cons_of_mem {v : Value} (h : v ∈ vs) : SameMembers vs (v :: vs) := by
  intro w
  rw [List.mem_cons, or_iff_right_of_imp]
  rintro rfl
  exact h

theorem all_eq (h : SameMembers vs ws) (p : Value → Bool) : vs.all p = ws.all p := by
  rw [Bool.eq_iff_iff, List.all_eq_true, List.all_eq_true]
  exact forall_congr' fun v => imp_congr_left (h v)

theorem any_eq (h : SameMembers vs ws) (p : Value → Bool) : vs.any p = ws.any p := by
  rw [Bool.eq_iff_iff, List.any_eq_true, List.any_eq_true]
  exact exists_congr fun v => and_congr_left' (h v)

theorem isEmpty_eq (h : SameMembers vs ws) : vs.isEmpty = ws.isEmpty := by
  rw [Bool.eq_iff_iff, List.isEmpty_iff, List.isEmpty_iff, List.eq_nil_iff_forall_not_mem,
    List.eq_nil_iff_forall_not_mem]
  exact forall_congr' fun v => not_congr (h v)

end SameMembers

/-! ## Rearranged rules -/

/-- Whether the entries of two objects can be paired, in any order, so that those of a pair
are related. -/
inductive PairedEntries (R : String × Value → String × Value → Prop) : Fields → Fields → Prop
  | nil : PairedEntries R [] []
  | cons {f g : String × Value} {xs ys zs : Fields} :
    R f g → PairedEntries R xs ys → zs.Perm (g :: ys) → PairedEntries R (f :: xs) zs

mutual
/-- A key of a rule: the rules in a list are rearranged, and so is the list itself. -/
inductive KeyRearranged : String × Value → String × Value → Prop
  | same (f : String × Value) : KeyRearranged f f
  | rules {name : String} {rs ms ss : List Value} : name ∈ ["$and", "$or", "$nor"] →
    SameMembers rs ms → List.Forall₂ RuleRearranged ms ss →
    KeyRearranged (name, .array rs) (name, .array ss)
  | not {r s : Value} : RuleRearranged r s → KeyRearranged ("$not", r) ("$not", s)
  | path {name : String} {c c' : Value} : Combinator.ofName? name = none →
    ConditionRearranged c c' → KeyRearranged (name, c) (name, c')

inductive RuleRearranged : Value → Value → Prop
  | same (r : Value) : RuleRearranged r r
  | keys {r s : Fields} : PairedEntries KeyRearranged r s → RuleRearranged (.object r) (.object s)

inductive ConditionRearranged : Value → Value → Prop
  | same (c : Value) : ConditionRearranged c c
  | operators {r s : Fields} : isOperatorObject r → PairedEntries OperatorRearranged r s →
    ConditionRearranged (.object r) (.object s)

/-- An operator of a condition: a list of candidates is rearranged, or the conditions in a
list and the list itself, or the condition or the rule that the operator holds. -/
inductive OperatorRearranged : String × Value → String × Value → Prop
  | same (f : String × Value) : OperatorRearranged f f
  | candidates {name : String} {vs ws : List Value} : name ∈ ["$in", "$nin"] →
    SameMembers vs ws → OperatorRearranged (name, .array vs) (name, .array ws)
  | all {cs ms cs' : List Value} : SameMembers cs ms → List.Forall₂ ConditionRearranged ms cs' →
    OperatorRearranged ("$all", .array cs) ("$all", .array cs')
  | condition {name : String} {c c' : Value} : name ∈ ["$not", "$size", "$elemMatch"] →
    ConditionRearranged c c' → OperatorRearranged (name, c) (name, c')
  | itemRule {r s : Fields} : isOperatorObject r = false → PairedEntries KeyRearranged r s →
    OperatorRearranged ("$elemMatch", .object r) ("$elemMatch", .object s)
end

/-- Whether a rule is another one with any lists in it rearranged that an evaluation goes
through. -/
def Rule.Rearranged (r s : Rule) : Prop := PairedEntries KeyRearranged r.conditions s.conditions

theorem KeyRearranged.name_eq {f g : String × Value} (h : KeyRearranged f g) : f.1 = g.1 := by
  cases h <;> rfl

theorem OperatorRearranged.name_eq {f g : String × Value} (h : OperatorRearranged f g) :
    f.1 = g.1 := by
  cases h <;> rfl

theorem RuleRearranged.isObject_eq {r s : Value} (h : RuleRearranged r s) :
    r.isObject = s.isObject := by
  cases h <;> rfl

namespace PairedEntries

variable {R : String × Value → String × Value → Prop} {xs ys : Fields}

theorem keys_perm (hR : ∀ {f g}, R f g → f.1 = g.1) (h : PairedEntries R xs ys) :
    (ys.map Prod.fst).Perm (xs.map Prod.fst) := by
  induction h with
  | nil => exact .refl _
  | cons hfg _ hp ih =>
    refine (hp.map Prod.fst).trans ?_
    rw [List.map_cons, List.map_cons, hR hfg]
    exact ih.cons _

theorem isOperatorObject_eq (hR : ∀ {f g}, R f g → f.1 = g.1) (h : PairedEntries R xs ys) :
    isOperatorObject xs = isOperatorObject ys :=
  (isOperatorObject_of_keys_perm (h.keys_perm hR)).symm

end PairedEntries

/-- Only an object of operators is rearranged as a condition. -/
theorem ConditionRearranged.eq_or_not_isPlainObject {c c' : Value} (h : ConditionRearranged c c') :
    c = c' ∨ c.isPlainObject = false ∧ c'.isPlainObject = false := by
  cases h with
  | same => exact .inl rfl
  | operators ho h =>
    have ho' := (h.isOperatorObject_eq OperatorRearranged.name_eq).symm.trans ho
    exact .inr ⟨by simp [Value.isPlainObject, Value.isLiteral, ho],
      by simp [Value.isPlainObject, Value.isLiteral, ho']⟩

/-! ## Answers -/

theorem all_eq_of_forall₂ {α β : Type} {p : α → Bool} {q : β → Bool} {as : List α} {bs : List β}
    (h : List.Forall₂ (fun a b => p a = q b) as bs) : as.all p = bs.all q := by
  induction h with
  | nil => rfl
  | cons hab _ ih => rw [List.all_cons, List.all_cons, hab, ih]

theorem any_eq_of_forall₂ {α β : Type} {p : α → Bool} {q : β → Bool} {as : List α} {bs : List β}
    (h : List.Forall₂ (fun a b => p a = q b) as bs) : as.any p = bs.any q := by
  induction h with
  | nil => rfl
  | cons hab _ ih => rw [List.any_cons, List.any_cons, hab, ih]

theorem isEmpty_eq_of_forall₂ {α β : Type} {R : α → β → Prop} {as : List α} {bs : List β}
    (h : List.Forall₂ R as bs) : as.isEmpty = bs.isEmpty := by
  cases h <;> rfl

theorem forall₂_of_mem {α β : Type} {R S : α → β → Prop} {as : List α} {bs : List β}
    (h : List.Forall₂ R as bs) (hS : ∀ a b, a ∈ as → R a b → S a b) : List.Forall₂ S as bs := by
  induction h with
  | nil => exact .nil
  | cons hab _ ih =>
    exact .cons (hS _ _ (List.mem_cons_self ..) hab)
      (ih fun a b ha => hS a b (List.mem_cons_of_mem _ ha))

theorem exists_of_forall₂_right {α β : Type} {R : α → β → Prop} {as : List α} {bs : List β}
    (h : List.Forall₂ R as bs) {b : β} (hb : b ∈ bs) : ∃ a ∈ as, R a b := by
  induction h with
  | nil => cases hb
  | cons hab _ ih =>
    rcases List.mem_cons.1 hb with rfl | hb
    · exact ⟨_, List.mem_cons_self .., hab⟩
    · obtain ⟨a, ha, hr⟩ := ih hb
      exact ⟨a, List.mem_cons_of_mem _ ha, hr⟩

theorem isAmong_eq_of_sameMembers {vs ws : List Value} (h : SameMembers vs ws) (v : Option Value) :
    Value.isAmong v vs = Value.isAmong v ws := by
  cases v with
  | none => rfl
  | some u => exact h.any_eq _

theorem holds_onItems {s t : List Value → Outcome} (h : ∀ items, (s items).holds = (t items).holds)
    (v : Option Value) :
    (Evaluation.onItems outcomes v s).holds = (Evaluation.onItems outcomes v t).holds := by
  unfold Evaluation.onItems
  split
  · exact h _
  · rfl

/-- A combinator of a list sees whether all members are objects, whether there are any, and
whether all or any of them hold as rules. -/
theorem holds_key_eq [PatternEngine] {name : String} {rs ss : List Value} {document : Value}
    (hn : name ∈ ["$and", "$or", "$nor"]) (hempty : rs.isEmpty = ss.isEmpty)
    (hobjects : rs.all Value.isObject = ss.all Value.isObject)
    (hall : (rs.all fun r => (Evaluation.listedRule outcomes r document).holds) =
      ss.all fun s => (Evaluation.listedRule outcomes s document).holds)
    (hany : (rs.any fun r => (Evaluation.listedRule outcomes r document).holds) =
      ss.any fun s => (Evaluation.listedRule outcomes s document).holds) :
    (Evaluation.key outcomes (name, .array rs) document).holds =
      (Evaluation.key outcomes (name, .array ss) document).holds := by
  simp only [List.mem_cons, List.not_mem_nil, or_false] at hn
  rcases hn with rfl | rfl | rfl
  · simp only [Evaluation.key, Combinator.ofName?, Evaluation.allOf, hobjects]
    split
    · simpa only [Evaluation.everyRule_eq_all, Outcome.holds_all] using hall
    · rfl
  · simp only [Evaluation.key, Combinator.ofName?, Evaluation.anyOf, hobjects, hempty]
    split
    · split
      · rfl
      · simpa only [Evaluation.someRule_eq_any, Outcome.holds_any] using hany
    · rfl
  · simp only [Evaluation.key, Combinator.ofName?, Evaluation.noneOf, hobjects]
    split
    · rw [Outcome.holds_not, Outcome.holds_not]
      simpa only [Evaluation.someRule_eq_any, Outcome.holds_any] using congrArg Bool.not hany
    · rfl

section
variable [PatternEngine]

mutual
theorem keys_rearranged : ∀ (r : Fields) {s : Fields}, PairedEntries KeyRearranged r s →
    ∀ document : Value, (Evaluation.keys outcomes r document).holds =
      (Evaluation.keys outcomes s document).holds
  | [], _, .nil, _ => rfl
  | f :: r, _, .cons hf hr hp, document => by
    rw [(keys_perm hp document).holds, Evaluation.keys, Evaluation.keys, Outcome.holds_both,
      Outcome.holds_both, key_rearranged f hf document, keys_rearranged r hr document]
termination_by structural r => r

theorem key_rearranged : ∀ (f : String × Value) {g : String × Value}, KeyRearranged f g →
    ∀ document : Value, (Evaluation.key outcomes f document).holds =
      (Evaluation.key outcomes g document).holds
  | _, _, .same _, _ => rfl
  | (_, .array rs), _, .rules hn hm hs, document => by
    have hanswers := forall₂_of_mem hs fun r s hr h =>
      listedRules_rearranged rs ((hm r).2 hr) h document
    have hobjects := all_eq_of_forall₂ (hs.imp fun _ _ h => h.isObject_eq)
    exact holds_key_eq hn (hm.isEmpty_eq.trans (isEmpty_eq_of_forall₂ hs))
      ((hm.all_eq _).trans hobjects) ((hm.all_eq _).trans (all_eq_of_forall₂ hanswers))
      ((hm.any_eq _).trans (any_eq_of_forall₂ hanswers))
  | (_, _), _, .not (.same _), _ => rfl
  | (_, .object r), _, .not (.keys h), document => congrArg Bool.not (keys_rearranged r h document)
  | (_, c), _, .path hn hc, document => by
    simp only [Evaluation.key, hn]
    exact condition_rearranged c hc _
termination_by structural f => f

theorem listedRules_rearranged : ∀ (rs : List Value) {r s : Value}, r ∈ rs → RuleRearranged r s →
    ∀ document : Value, (Evaluation.listedRule outcomes r document).holds =
      (Evaluation.listedRule outcomes s document).holds
  | r :: rs, _, _, hr, h, document => by
    rcases List.mem_cons.1 hr with he | hr
    · rw [he] at h ⊢
      exact listedRule_rearranged r h document
    · exact listedRules_rearranged rs hr h document
termination_by structural rs => rs

theorem listedRule_rearranged : ∀ (r : Value) {s : Value}, RuleRearranged r s → ∀ document : Value,
    (Evaluation.listedRule outcomes r document).holds =
      (Evaluation.listedRule outcomes s document).holds
  | _, _, .same _, _ => rfl
  | .object r, _, .keys h, document => keys_rearranged r h document
termination_by structural r => r

theorem condition_rearranged : ∀ (c : Value) {c' : Value}, ConditionRearranged c c' →
    ∀ v : Option Value, (Evaluation.condition outcomes c v).holds =
      (Evaluation.condition outcomes c' v).holds
  | _, _, .same _, _ => rfl
  | .object r, _, .operators ho h, v => by
    have ho' := (h.isOperatorObject_eq OperatorRearranged.name_eq).symm.trans ho
    simp only [Evaluation.condition, ho, ho', if_true, Outcome.holds_enter]
    exact operators_rearranged r h v
termination_by structural c => c

theorem operators_rearranged : ∀ (r : Fields) {s : Fields}, PairedEntries OperatorRearranged r s →
    ∀ v : Option Value, (Evaluation.operators outcomes r v).holds =
      (Evaluation.operators outcomes s v).holds
  | [], _, .nil, _ => rfl
  | f :: r, _, .cons hf hr hp, v => by
    rw [(operators_perm hp v).holds, Evaluation.operators, Evaluation.operators, Outcome.holds_both,
      Outcome.holds_both, operator_rearranged f hf v, operators_rearranged r hr v]
termination_by structural r => r

theorem operator_rearranged : ∀ (f : String × Value) {g : String × Value}, OperatorRearranged f g →
    ∀ v : Option Value, (Evaluation.operator outcomes f v).holds =
      (Evaluation.operator outcomes g v).holds
  | _, _, .same _, _ => rfl
  | _, _, .candidates hn hm, v => by
    have hamong := isAmong_eq_of_sameMembers hm v
    simp only [List.mem_cons, List.not_mem_nil, or_false] at hn
    rcases hn with rfl | rfl
    · exact hamong
    · exact congrArg Bool.not hamong
  | (_, .array cs), _, .all hm hs, v => holds_onItems (fun items => by
    simp only [Evaluation.hasItems_eq_all, Outcome.holds_all, Outcome.holds_any]
    refine (hm.all_eq _).trans (all_eq_of_forall₂ (forall₂_of_mem hs fun c c' hc h => ?_))
    simp only [conditions_rearranged cs ((hm c).2 hc) h]) v
  | (_, c), _, .condition hn hc, v => by
    simp only [List.mem_cons, List.not_mem_nil, or_false] at hn
    rcases hn with rfl | rfl | rfl
    · exact congrArg Bool.not (condition_rearranged c hc v)
    · exact holds_onItems (fun items => condition_rearranged c hc _) v
    · refine holds_onItems (fun items => ?_) v
      rcases hc.eq_or_not_isPlainObject with rfl | ⟨hplain, hplain'⟩
      · rfl
      · simp only [Outcome.holds_any, Evaluation.element_of_not_isPlainObject outcomes hplain,
          Evaluation.element_of_not_isPlainObject outcomes hplain', condition_rearranged c hc]
  | (_, .object r), _, .itemRule ho h, v => holds_onItems (fun items => by
    have ho' := (h.isOperatorObject_eq KeyRearranged.name_eq).symm.trans ho
    simp only [Outcome.holds_any]
    refine congrArg items.any (funext fun item => ?_)
    simp only [Evaluation.element, ho, ho', Bool.false_eq_true, if_false]
    cases hi : item.isObject with
    | true => exact keys_rearranged r h item
    | false =>
      rw [equal_object_of_not_isObject hi, equal_object_of_not_isObject hi]
      rfl) v
termination_by structural f => f

theorem conditions_rearranged : ∀ (cs : List Value) {c c' : Value}, c ∈ cs →
    ConditionRearranged c c' → ∀ v : Option Value, (Evaluation.condition outcomes c v).holds =
      (Evaluation.condition outcomes c' v).holds
  | c :: cs, _, _, hc, h, v => by
    rcases List.mem_cons.1 hc with he | hc
    · rw [he] at h ⊢
      exact condition_rearranged c h v
    · exact conditions_rearranged cs hc h v
termination_by structural cs => cs
end

end

/-! ## Nesting -/

theorem fieldsNesting_perm_le {xs ys : Fields} (h : xs.Perm ys) : fieldsNesting xs ≤ fieldsNesting ys := by
  rw [fieldsNesting_le_iff]
  intro f hf
  exact fieldsNesting_le_iff.1 (Nat.le_refl _) f (h.subset hf)

/-- Lists that are rearranged member by member, once their members have been moved and
repeated, nest no more than before. -/
theorem itemsNesting_rearranged_le {R : Value → Value → Prop} {vs ms ws : List Value}
    (hm : SameMembers vs ms) (hw : List.Forall₂ R ms ws)
    (h : ∀ v ∈ vs, ∀ w, R v w → w.nesting ≤ v.nesting) : itemsNesting ws ≤ itemsNesting vs := by
  rw [itemsNesting_le_iff]
  intro w hmem
  obtain ⟨m, hmms, hmw⟩ := exists_of_forall₂_right hw hmem
  have hv : m ∈ vs := (hm m).2 hmms
  exact Nat.le_trans (h m hv w hmw) (itemsNesting_le_iff.1 (Nat.le_refl _) m hv)

mutual
theorem keysNesting_rearranged : ∀ (r : Fields) {s : Fields}, PairedEntries KeyRearranged r s →
    fieldsNesting s ≤ fieldsNesting r
  | [], _, .nil => Nat.le_refl _
  | f :: r, _, .cons hf hr hp => by
    have hperm := fieldsNesting_perm_le hp
    have hhead := keyNesting_rearranged f hf
    have hrest := keysNesting_rearranged r hr
    rw [fieldsNesting] at hperm ⊢
    omega
termination_by structural r => r

theorem keyNesting_rearranged : ∀ (f : String × Value) {g : String × Value}, KeyRearranged f g →
    fieldNesting g ≤ fieldNesting f
  | _, _, .same _ => Nat.le_refl _
  | (_, .array rs), _, .rules _ hm hs =>
    itemsNesting_rearranged_le hm hs fun _ hr _ h => rulesNesting_rearranged rs hr h
  | (_, r), _, .not h => ruleNesting_rearranged r h
  | (_, c), _, .path _ h => conditionNesting_rearranged c h
termination_by structural f => f

theorem rulesNesting_rearranged : ∀ (rs : List Value) {r s : Value}, r ∈ rs → RuleRearranged r s →
    s.nesting ≤ r.nesting
  | r :: rs, _, _, hr, h => by
    rcases List.mem_cons.1 hr with he | hr
    · rw [he] at h ⊢
      exact ruleNesting_rearranged r h
    · exact rulesNesting_rearranged rs hr h
termination_by structural rs => rs

theorem ruleNesting_rearranged : ∀ (r : Value) {s : Value}, RuleRearranged r s →
    s.nesting ≤ r.nesting
  | _, _, .same _ => Nat.le_refl _
  | .object r, _, .keys h => Nat.succ_le_succ (keysNesting_rearranged r h)
termination_by structural r => r

theorem conditionNesting_rearranged : ∀ (c : Value) {c' : Value}, ConditionRearranged c c' →
    c'.nesting ≤ c.nesting
  | _, _, .same _ => Nat.le_refl _
  | .object r, _, .operators _ h => Nat.succ_le_succ (operatorsNesting_rearranged r h)
termination_by structural c => c

theorem operatorsNesting_rearranged : ∀ (r : Fields) {s : Fields},
    PairedEntries OperatorRearranged r s → fieldsNesting s ≤ fieldsNesting r
  | [], _, .nil => Nat.le_refl _
  | f :: r, _, .cons hf hr hp => by
    have hperm := fieldsNesting_perm_le hp
    have hhead := operatorNesting_rearranged f hf
    have hrest := operatorsNesting_rearranged r hr
    rw [fieldsNesting] at hperm ⊢
    omega
termination_by structural r => r

theorem operatorNesting_rearranged : ∀ (f : String × Value) {g : String × Value},
    OperatorRearranged f g → fieldNesting g ≤ fieldNesting f
  | _, _, .same _ => Nat.le_refl _
  | (_, .array _), _, .candidates _ hm =>
    itemsNesting_rearranged_le (R := Eq) hm (List.forall₂_refl _) fun _ _ _ h =>
      Nat.le_of_eq (congrArg Value.nesting h.symm)
  | (_, .array cs), _, .all hm hs =>
    itemsNesting_rearranged_le hm hs fun _ hc _ h => conditionsNesting_rearranged cs hc h
  | (_, c), _, .condition _ h => conditionNesting_rearranged c h
  | (_, .object r), _, .itemRule _ h => Nat.succ_le_succ (keysNesting_rearranged r h)
termination_by structural f => f

theorem conditionsNesting_rearranged : ∀ (cs : List Value) {c c' : Value}, c ∈ cs →
    ConditionRearranged c c' → c'.nesting ≤ c.nesting
  | c :: cs, _, _, hc, h => by
    rcases List.mem_cons.1 hc with he | hc
    · rw [he] at h ⊢
      exact conditionNesting_rearranged c h
    · exact conditionsNesting_rearranged cs hc h
termination_by structural cs => cs
end

/-! ## Rules -/

/-- A rule that is not nested too deep answers as its outcome does. -/
theorem Rule.holds_evaluate [PatternEngine] {r : Rule} (h : r.nesting ≤ levelLimit) (document : Value) :
    (r.evaluate document).holds = (r.outcome document).holds := by
  have hf := r.evaluate_follows document
  rw [hf.eq_of_tooDeepCount_eq_zero (Rule.tooDeepCount_eq_zero h document)]

/-- The lists in a rule that an evaluation goes through are sets: if it nests no more objects
than levels may be open, the rule gives the same answer for every document when the members
of any of these lists, anywhere in it, are put in another order or repeated. -/
theorem evaluate_rearranged [PatternEngine] {r s : Rule} (h : r.Rearranged s) (hn : r.nesting ≤ levelLimit)
    (document : Value) : (s.evaluate document).holds = (r.evaluate document).holds := by
  have hle : s.nesting ≤ r.nesting := Nat.succ_le_succ (keysNesting_rearranged r.conditions h)
  rw [Rule.holds_evaluate hn, Rule.holds_evaluate (Nat.le_trans hle hn)]
  exact (keys_rearranged r.conditions h document).symm

/-- The first rule of the second list decides it, and the other is as deep as the limit
allows. Put in front it is tested, and does not hold; one level deeper, it would have the
rule refused. Of the rule that is there twice in the first list, one is rearranged inside. -/
theorem evaluate_rearranged_at_limit :
    let any : Value := .object []
    let deep : Value := Nat.repeat (fun r => .object [("$not", r)]) 126 any
    let either (rules : List Value) : Value := .object [("$or", .array rules)]
    let r : Rule := ⟨[("$and", .array [either [any]]), ("$or", .array [any, deep]),
      ("a", .object [("$nin", .array [.null, .bool true])])]⟩
    let s : Rule := ⟨[("a", .object [("$nin", .array [.bool true, .null])]),
      ("$and", .array [either [any, any], either [any]]), ("$or", .array [deep, any, deep])]⟩
    let document : Value := .object [("a", .bool false)]
    r.Rearranged s ∧ r.nesting ≤ levelLimit ∧ (r.evaluate document).holds ∧
      (s.evaluate document).holds = (r.evaluate document).holds := by
  intro any deep either r s document
  have heither : RuleRearranged (either [any]) (either [any, any]) :=
    .keys (.cons (.rules (by decide) (.cons_of_mem (List.mem_singleton_self _))
      (.cons (.same _) (.cons (.same _) .nil))) .nil (.refl _))
  have hand : KeyRearranged ("$and", .array [either [any]])
      ("$and", .array [either [any, any], either [any]]) :=
    .rules (by decide) (.cons_of_mem (List.mem_singleton_self _)) (.cons heither (.cons (.same _) .nil))
  have hor : KeyRearranged ("$or", .array [any, deep]) ("$or", .array [deep, any, deep]) :=
    .rules (by decide) (.cons_of_mem (by simp)) (.cons (.same _) (.cons (.same _) (.cons (.same _) .nil)))
  have hnin : KeyRearranged ("a", .object [("$nin", .array [.null, .bool true])])
      ("a", .object [("$nin", .array [.bool true, .null])]) :=
    .path rfl (.operators rfl (.cons (.candidates (by decide) (.of_perm (.swap ..))) .nil (.refl _)))
  have h : r.Rearranged s :=
    .cons hand (.cons hor (.cons hnin .nil (.refl _)) (.refl _))
      (@List.perm_append_comm _ [_] [_, _])
  have hn : r.nesting ≤ levelLimit := by decide +kernel
  exact ⟨h, hn, by decide +kernel, evaluate_rearranged h hn document⟩

end Targeting

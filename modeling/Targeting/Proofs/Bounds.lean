import Targeting.Proofs.Entries
import Targeting.Proofs.Nesting
/-!
# What a rule bounds

How deep a test goes and what it can report is bounded by the rule alone, whatever
the document is: levels by how deep the objects of the rule are nested, and
problems by its entries. `Checks.Bounded` says what it takes for checks of some
kind to keep to such bounds, and that all evaluations then do.
-/

namespace Targeting

/-! ## Nesting -/

mutual
/-- How many objects there are at most one inside another. -/
def Value.nesting : Value → Nat
  | .array items => itemsNesting items
  | .object fields => fieldsNesting fields + 1
  | _ => 0
termination_by structural v => v

def itemsNesting : List Value → Nat
  | [] => 0
  | v :: vs => max v.nesting (itemsNesting vs)
termination_by structural vs => vs

def fieldsNesting : List (String × Value) → Nat
  | [] => 0
  | f :: rest => max (fieldNesting f) (fieldsNesting rest)
termination_by structural fs => fs

def fieldNesting : String × Value → Nat
  | (_, v) => v.nesting
termination_by structural f => f
end

def Rule.nesting (r : Rule) : Nat := (Value.object r.conditions).nesting

theorem itemsNesting_le_iff {items : List Value} {n : Nat} :
    itemsNesting items ≤ n ↔ ∀ v ∈ items, v.nesting ≤ n := by
  induction items with
  | nil => simp [itemsNesting]
  | cons v vs ih => rw [itemsNesting, Nat.max_le, ih, List.forall_mem_cons]

theorem fieldsNesting_le_iff {fields : Fields} {n : Nat} :
    fieldsNesting fields ≤ n ↔ ∀ f ∈ fields, fieldNesting f ≤ n := by
  induction fields with
  | nil => simp [fieldsNesting]
  | cons f rest ih => rw [fieldsNesting, Nat.max_le, ih, List.forall_mem_cons]

/-! ## Bounded checks -/

variable [PatternEngine] {χ α : Type} {k : Checks χ} {es : List Entry} {W : Nat → χ → Prop}

/-- `W n` holds of all checks that open no more than `n` levels and report no more
than `es` cause, if it holds of them by the way they are put together. -/
structure Checks.Bounded (k : Checks χ) (es : List Entry) (W : Nat → χ → Prop) : Prop where
  answer (n : Nat) (b : Bool) : W n (k.answer b)
  next {n : Nat} {p : χ} {f : Bool → χ} : W n p → (∀ b, W n (f b)) → W n (k.next p f)
  enter {n : Nat} {p : χ} : W n p → W (n + 1) (k.enter p)
  fail {e : Entry} {d : Diagnostic} (n : Nat) : e ∈ es → e.Causes d → W n (k.fail d)

namespace Checks.Bounded

variable {n : Nat} {p q : χ}

theorem not (h : k.Bounded es W) (hp : W n p) : W n (k.not p) :=
  h.next hp fun b => h.answer n !b

theorem both (h : k.Bounded es W) (hp : W n p) (hq : W n q) : W n (k.both p q) :=
  h.next hp fun a => h.next hq fun b => h.answer n (a && b)

theorem andThen (h : k.Bounded es W) (hp : W n p) (hq : W n q) : W n (k.andThen p q) := by
  apply h.next hp
  intro a
  cases a with
  | true => exact hq
  | false => exact h.answer n false

theorem orElse (h : k.Bounded es W) (hp : W n p) (hq : W n q) : W n (k.orElse p q) := by
  apply h.next hp
  intro a
  cases a with
  | true => exact h.answer n true
  | false => exact hq

/-- An object of operators or of keys takes one level more than what it holds. -/
theorem enterObject (h : k.Bounded es W) {fields : Fields} (hn : (Value.object fields).nesting ≤ n)
    (hp : ∀ {m : Nat}, fieldsNesting fields ≤ m → W m p) : W n (k.enter p) := by
  cases n with
  | zero => cases hn
  | succ m => exact h.enter (hp (Nat.le_of_succ_le_succ hn))

theorem any (h : k.Bounded es W) {test : α → χ} (ht : ∀ a, W n (test a)) (as : List α) :
    W n (k.any test as) := by
  induction as with
  | nil => exact h.answer n false
  | cons a as ih => exact h.orElse (ht a) ih

/-! ## Single operators -/

variable {name : String} {operand : Value}

theorem searchPattern (h : k.Bounded es W) (hn : Operator.ofName? name = some .regex)
    (ha : Operator.regex.accepts operand) (he : .operator name operand ∈ es) (v : Option Value) :
    W n (Evaluation.searchPattern k v operand) := by
  cases operand with
  | string pattern =>
    simp only [Evaluation.searchPattern]
    split
    · exact h.answer n false
    · split
      · exact h.answer n _
      · next hs =>
        refine h.fail n he (.inr ?_)
        simp only [Entry.badPattern?, hn, hs]
  | _ => cases ha

theorem simple (h : k.Bounded es W) {op : Operator} (hn : Operator.ofName? name = some op)
    (ha : op.accepts operand) (he : .operator name operand ∈ es) (v : Option Value) :
    W n (Evaluation.simple k op v operand) := by
  cases op with
  | regex => exact h.searchPattern hn ha he v
  | isIn | notIn =>
    cases operand with
    | array candidates => exact h.answer n _
    | _ => cases ha
  | _ => exact h.answer n _

theorem onItems (h : k.Bounded es W) (v : Option Value) {test : List Value → χ}
    (ht : ∀ items, W n (test items)) : W n (Evaluation.onItems k v test) := by
  unfold Evaluation.onItems
  split
  · exact ht _
  · exact h.answer n false

/-! ## Evaluations -/

mutual
theorem condition (h : k.Bounded es W) : ∀ (c : Value) (v : Option Value) {n : Nat},
    c.nesting ≤ n → conditionEntries .ever c ⊆ es → W n (Evaluation.condition k c v)
  | .object fields, v, n, hn, he => by
    simp only [Evaluation.condition]
    split
    · next ho =>
      rw [conditionEntries, if_pos ho] at he
      exact h.enterObject hn fun hm => operators h fields v hm he
    · exact h.answer n _
  | .null, _, n, _, _ | .bool _, _, n, _, _ | .number _, _, n, _, _ | .string _, _, n, _, _
  | .array _, _, n, _, _ => h.answer n _
termination_by structural c => c

theorem operators (h : k.Bounded es W) : ∀ (fields : Fields) (v : Option Value) {n : Nat},
    fieldsNesting fields ≤ n → operatorsEntries .ever fields ⊆ es →
      W n (Evaluation.operators k fields v)
  | [], _, n, _, _ => h.answer n true
  | f :: rest, v, n, hn, he => by
    rw [fieldsNesting, Nat.max_le] at hn
    rw [operatorsEntries, List.append_subset] at he
    exact h.both (operator h f v hn.1 he.1) (operators h rest v hn.2 he.2)
termination_by structural fields => fields

theorem operator (h : k.Bounded es W) : ∀ (f : String × Value) (v : Option Value) {n : Nat},
    fieldNesting f ≤ n → operatorEntries .ever f ⊆ es → W n (Evaluation.operator k f v)
  | (name, operand), v, n, hn, he => by
    rw [operatorEntries, List.cons_subset] at he
    obtain ⟨hself, hinside⟩ := he
    cases ho : Operator.ofName? name with
    | none =>
      rw [Evaluation.operator_of_unknown k ho]
      exact h.fail n hself (.inl (Entry.misfit?_operator_of_unknown ho))
    | some op =>
      rw [ho] at hinside
      cases ha : op.accepts operand with
      | false =>
        rw [Evaluation.operator_of_not_accepts k ho ha]
        exact h.fail n hself (.inl (Entry.misfit?_operator_of_not_accepts ho ha))
      | true =>
        simp only [Evaluation.operator, ho]
        cases op with
        | not => exact h.not (condition h operand v hn hinside)
        | size => exact h.onItems v fun items => condition h operand _ hn hinside
        | elemMatch => exact h.onItems v (h.any fun item => element h operand item hn hinside)
        | all => exact containsAll h operand v hn ha hinside
        | _ => exact h.simple ho ha hself v
termination_by structural f => f

theorem element (h : k.Bounded es W) : ∀ (c item : Value) {n : Nat},
    c.nesting ≤ n → elementEntries .ever c ⊆ es → W n (Evaluation.element k c item)
  | .object fields, item, n, hn, he => by
    simp only [Evaluation.element]
    split
    · next ho =>
      rw [elementEntries, if_pos ho] at he
      exact h.enterObject hn fun hm => operators h fields (some item) hm he
    · next ho =>
      rw [elementEntries, if_neg ho] at he
      split
      · exact h.enterObject hn fun hm => keys h fields item hm he
      · exact h.answer _ _
  | .null, _, n, _, _ | .bool _, _, n, _, _ | .number _, _, n, _, _ | .string _, _, n, _, _
  | .array _, _, n, _, _ => h.answer n _
termination_by structural c => c

theorem containsAll (h : k.Bounded es W) : ∀ (c : Value) (v : Option Value) {n : Nat},
    c.nesting ≤ n → Operator.all.accepts c → containedEntries .ever c ⊆ es →
      W n (Evaluation.containsAll k c v)
  | .array conditions, v, _, hn, _, he => h.onItems v (hasItems h conditions · hn he)
termination_by structural c => c

theorem hasItems (h : k.Bounded es W) : ∀ (cs items : List Value) {n : Nat},
    itemsNesting cs ≤ n → conditionsEntries .ever cs ⊆ es → W n (Evaluation.hasItems k cs items)
  | [], _, n, _, _ => h.answer n true
  | c :: cs, items, n, hn, he => by
    rw [itemsNesting, Nat.max_le] at hn
    rw [conditionsEntries, List.append_subset] at he
    exact h.andThen (h.any (fun item => condition h c (some item) hn.1 he.1) items)
      (hasItems h cs items hn.2 he.2)
termination_by structural cs => cs

theorem keys (h : k.Bounded es W) : ∀ (fields : Fields) (document : Value) {n : Nat},
    fieldsNesting fields ≤ n → keysEntries .ever fields ⊆ es →
      W n (Evaluation.keys k fields document)
  | [], _, n, _, _ => h.answer n true
  | f :: rest, document, n, hn, he => by
    rw [fieldsNesting, Nat.max_le] at hn
    rw [keysEntries, List.append_subset] at he
    exact h.both (key h f document hn.1 he.1) (keys h rest document hn.2 he.2)
termination_by structural fields => fields

theorem key (h : k.Bounded es W) : ∀ (f : String × Value) (document : Value) {n : Nat},
    fieldNesting f ≤ n → keyEntries .ever f ⊆ es → W n (Evaluation.key k f document)
  | (name, c), document, n, hn, he => by
    rw [keyEntries, List.cons_subset] at he
    obtain ⟨hself, hinside⟩ := he
    cases hc : Combinator.ofName? name with
    | none =>
      rw [hc] at hinside
      simp only [Evaluation.key, hc]
      exact condition h c _ hn hinside
    | some combinator =>
      rw [hc] at hinside
      cases ha : combinator.accepts c with
      | false =>
        rw [Evaluation.key_of_not_accepts k hc ha]
        exact h.fail n hself (.inl (Entry.misfit?_key_of_not_accepts hc ha))
      | true =>
        simp only [Evaluation.key, hc]
        cases combinator with
        | and => exact allOf h c document hn ha hinside
        | or => exact anyOf h c document hn ha hinside
        | nor => exact noneOf h c document hn ha hinside
        | not => exact notOne h c document hn ha hinside
termination_by structural f => f

theorem allOf (h : k.Bounded es W) : ∀ (c document : Value) {n : Nat}, c.nesting ≤ n →
    Combinator.and.accepts c → listEntries .ever c ⊆ es → W n (Evaluation.allOf k c document)
  | .array rules, document, n, hn, ha, he => by
    have hr : rules.all Value.isObject = true := ha
    rw [listEntries, if_pos hr] at he
    simp only [Evaluation.allOf, if_pos hr]
    exact everyRule h rules document hn he
termination_by structural c => c

theorem anyOf (h : k.Bounded es W) : ∀ (c document : Value) {n : Nat}, c.nesting ≤ n →
    Combinator.or.accepts c → listEntries .ever c ⊆ es → W n (Evaluation.anyOf k c document)
  | .array rules, document, n, hn, ha, he => by
    have hr : rules.all Value.isObject = true := ha
    rw [listEntries, if_pos hr] at he
    simp only [Evaluation.anyOf, if_pos hr]
    split
    · exact h.answer n true
    · exact someRule h rules document hn he
termination_by structural c => c

theorem noneOf (h : k.Bounded es W) : ∀ (c document : Value) {n : Nat}, c.nesting ≤ n →
    Combinator.nor.accepts c → listEntries .ever c ⊆ es → W n (Evaluation.noneOf k c document)
  | .array rules, document, n, hn, ha, he => by
    have hr : rules.all Value.isObject = true := ha
    rw [listEntries, if_pos hr] at he
    simp only [Evaluation.noneOf, if_pos hr]
    exact h.not (someRule h rules document hn he)
termination_by structural c => c

theorem notOne (h : k.Bounded es W) : ∀ (c document : Value) {n : Nat}, c.nesting ≤ n →
    Combinator.not.accepts c → ruleEntries .ever c ⊆ es → W n (Evaluation.notOne k c document)
  | .object fields, document, _, hn, _, he =>
    h.not (h.enterObject hn fun hm => keys h fields document hm he)
termination_by structural c => c

theorem everyRule (h : k.Bounded es W) : ∀ (rules : List Value) (document : Value) {n : Nat},
    itemsNesting rules ≤ n → rulesEntries .ever rules ⊆ es →
      W n (Evaluation.everyRule k rules document)
  | [], _, n, _, _ => h.answer n true
  | r :: rs, document, n, hn, he => by
    rw [itemsNesting, Nat.max_le] at hn
    rw [rulesEntries, List.append_subset] at he
    exact h.andThen (listedRule h r document hn.1 he.1) (everyRule h rs document hn.2 he.2)
termination_by structural rules => rules

theorem someRule (h : k.Bounded es W) : ∀ (rules : List Value) (document : Value) {n : Nat},
    itemsNesting rules ≤ n → rulesEntries .ever rules ⊆ es →
      W n (Evaluation.someRule k rules document)
  | [], _, n, _, _ => h.answer n false
  | r :: rs, document, n, hn, he => by
    rw [itemsNesting, Nat.max_le] at hn
    rw [rulesEntries, List.append_subset] at he
    exact h.orElse (listedRule h r document hn.1 he.1) (someRule h rs document hn.2 he.2)
termination_by structural rules => rules

theorem listedRule (h : k.Bounded es W) : ∀ (r document : Value) {n : Nat},
    r.nesting ≤ n → ruleEntries .ever r ⊆ es → W n (Evaluation.listedRule k r document)
  | .object fields, document, _, hn, he => h.enterObject hn fun hm => keys h fields document hm he
  | .null, _, n, _, _ | .bool _, _, n, _, _ | .number _, _, n, _, _ | .string _, _, n, _, _
  | .array _, _, n, _, _ => h.answer n false
termination_by structural r => r
end

/-- A rule bounds its tests by its own nesting and entries. -/
theorem rule (r : Rule) (h : k.Bounded (r.entries .ever) W) (document : Value) :
    W r.nesting (Evaluation.rule k r.conditions document) :=
  h.enter (h.keys r.conditions document (Nat.le_refl _) (List.Subset.refl _))

end Checks.Bounded

/-! ## Levels -/

theorem deepest_bounded (es : List Entry) : outcomes.Bounded es fun n o => o.deepest ≤ n where
  answer n b := by simp
  next hp hf := by
    rw [Outcome.deepest_next, Nat.max_le]
    exact ⟨hp, hf _⟩
  enter hp := by
    rw [Outcome.deepest_enter]
    exact Nat.succ_le_succ hp
  fail n _ _ := by simp

/-- A rule that nests no more objects than levels may be open is never refused for
its nesting, whatever the document is. -/
theorem Rule.tooDeepCount_eq_zero {r : Rule} (h : r.nesting ≤ levelLimit) (document : Value) :
    (r.evaluate document).tooDeepCount = 0 := by
  rw [(r.evaluate_follows document).tooDeepCount_eq_zero_iff]
  exact Nat.le_trans ((deepest_bounded _).rule r document) h

theorem matchCondition_tooDeepCount_eq_zero {c : Value} (h : c.nesting ≤ levelLimit) (v : Option Value) :
    (matchCondition v c).tooDeepCount = 0 := by
  rw [(matchCondition_follows v c).tooDeepCount_eq_zero_iff]
  have hb := (deepest_bounded (conditionEntries .ever c)).condition c v (Nat.le_refl _) (List.Subset.refl _)
  exact Nat.le_trans hb h

end Targeting

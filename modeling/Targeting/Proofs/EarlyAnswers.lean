import Targeting.Proofs.Items
/-!
# Lists that are decided early

Lists of rules, of items and of conditions are tested in order until the answer is known,
and what comes after that has no say: it neither changes the answer nor reports a problem,
whatever is wrong with it and however deep it is nested (`decided_lists`). The shape of a
list of rules is another matter: one member that is no object spoils the list before any
rule in it is tested.
-/

namespace Targeting

/-! ## Lists of tests -/

namespace Outcome

variable {α : Type} {test : α → Outcome} {as : List α}

theorem andThen_of_not_holds {o : Outcome} (h : o.holds = false) (p : Outcome) :
    outcomes.andThen o p = o := by
  obtain ⟨b, es⟩ := o
  obtain rfl : b = false := h
  simp [Checks.andThen, outcomes]

theorem orElse_of_holds {o : Outcome} (h : o.holds) (p : Outcome) : outcomes.orElse o p = o := by
  obtain ⟨b, es⟩ := o
  obtain rfl : b = true := h
  simp [Checks.orElse, outcomes]

theorem all_append_of_not_holds (h : (outcomes.all test as).holds = false) (bs : List α) :
    outcomes.all test (as ++ bs) = outcomes.all test as := by
  rw [outcomes_lawful.all_append, andThen_of_not_holds h]

theorem any_append_of_holds (h : (outcomes.any test as).holds) (bs : List α) :
    outcomes.any test (as ++ bs) = outcomes.any test as := by
  rw [outcomes_lawful.any_append, orElse_of_holds h]

end Outcome

section
variable {α : Type} {test : α → Outcome} {report : α → Report} {as : List α}

/-- A member whose own report says no decides that not all members hold. If it comes after
another such member it may be one that is refused when it is tested by itself. -/
theorem all_not_holds_of_report (hf : ∀ a, (report a).Follows (test a))
    (hd : (outcomes.all test as).deepest ≤ levelLimit) {a : α} (ha : a ∈ as)
    (hr : (report a).holds = false) : (outcomes.all test as).holds = false := by
  rw [Bool.eq_false_iff]
  intro h
  obtain ⟨hholds, hdeepest⟩ := Outcome.holds_all_within_iff.1 ⟨h, hd⟩ a ha
  have hreport : (report a).holds = true := by
    rw [(hf a).holds_eq, hholds, decide_eq_true hdeepest]
    rfl
  exact Bool.false_ne_true (hr.symm.trans hreport)

theorem any_holds_of_report (hf : ∀ a, (report a).Follows (test a)) {a : α} (ha : a ∈ as)
    (hr : (report a).holds) : (outcomes.any test as).holds := by
  rw [(hf a).holds_eq, Bool.and_eq_true] at hr
  rw [Outcome.holds_any, List.any_eq_true]
  exact ⟨a, ha, hr.1⟩

end

/-! ## Checks with one outcome -/

/-- Whether a check runs just as another does from every state of a test, unless the other is
refused for its nesting there. -/
def Check.SameWithinLimit (p q : Check Progress) : Prop :=
  ∀ s : Progress, s.depth ≤ levelLimit → s.aborted = false → (q s).2.aborted = false → p s = q s

theorem Limited.sameWithinLimit {p q : Check Progress} {o o' : Outcome} (hp : Limited levelLimit p o)
    (hq : Limited levelLimit q o') (h : o'.deepest ≤ levelLimit → o = o') : p.SameWithinLimit q := by
  rintro ⟨n, aborted, ds⟩ hn rfl hs
  have hd := hq.le_of_not_aborted hn hs
  obtain rfl := h (by omega)
  rw [hp.within n ds hd, hq.within n ds hd]

/-- An outcome that is not refused has one report. -/
theorem Report.Follows.unique {a b : Report} {o o' : Outcome} (ha : a.Follows (outcomes.enter o))
    (hb : b.Follows (outcomes.enter o')) (h : o'.deepest ≤ levelLimit → o = o')
    (h0 : b.tooDeepCount = 0) : a = b := by
  obtain rfl := h (hb.deepest_le_of_enter h0)
  rw [hb.eq_of_tooDeepCount_eq_zero h0, ha.within (hb.tooDeepCount_eq_zero_iff.1 h0)]

/-- The answer of a rule in the list of a combinator that leaves no question open. -/
def Combinator.decidedBy : Combinator → Bool
  | .and => false
  | .or | .nor | .not => true

section
variable [PatternEngine]

theorem key_sameWithinLimit {f g : String × Value} {document : Value}
    (h : (Evaluation.key outcomes g document).deepest ≤ levelLimit →
      Evaluation.key outcomes f document = Evaluation.key outcomes g document) :
    Check.SameWithinLimit (Evaluation.key (limitedTo levelLimit).checks f document)
      (Evaluation.key (limitedTo levelLimit).checks g document) :=
  ((limited_related levelLimit).key f document).sameWithinLimit
    ((limited_related levelLimit).key g document) h

theorem operator_sameWithinLimit {f g : String × Value} {v w : Option Value}
    (h : (Evaluation.operator outcomes g w).deepest ≤ levelLimit →
      Evaluation.operator outcomes f v = Evaluation.operator outcomes g w) :
    Check.SameWithinLimit (Evaluation.operator (limitedTo levelLimit).checks f v)
      (Evaluation.operator (limitedTo levelLimit).checks g w) :=
  ((limited_related levelLimit).operator f v).sameWithinLimit
    ((limited_related levelLimit).operator g w) h

theorem evaluate_single_follows (f : String × Value) (document : Value) :
    (Rule.evaluate ⟨[f]⟩ document).Follows (outcomes.enter (Evaluation.key outcomes f document)) := by
  rw [← outcomes_lawful.rule_single]
  exact Rule.evaluate_follows ⟨[f]⟩ document

/-! ## What decides -/

theorem key_ofRules_append {c : Combinator} (hc : c ∈ [Combinator.and, .or, .nor])
    {document : Value} {rules : List Rule}
    (hr : ∃ r ∈ rules, (r.evaluate document).holds = c.decidedBy) (rest : List Rule)
    (hd : (Evaluation.key outcomes (c.name, .ofRules rules) document).deepest ≤ levelLimit) :
    Evaluation.key outcomes (c.name, .ofRules (rules ++ rest)) document =
      Evaluation.key outcomes (c.name, .ofRules rules) document := by
  obtain ⟨r, hmem, hr⟩ := hr
  -- an empty `$or` holds, so it counts that the list has a rule
  have hne : rules ≠ [] := List.ne_nil_of_mem hmem
  have hne' : rules ++ rest ≠ [] := List.append_ne_nil_of_left_ne_nil hne rest
  have hf (r : Rule) : (r.evaluate document).Follows (Evaluation.rule outcomes r.conditions document) :=
    r.evaluate_follows document
  simp only [List.mem_cons, List.not_mem_nil, or_false] at hc
  rcases hc with rfl | rfl | rfl
  · rw [Evaluation.key_and] at hd
    rw [Evaluation.key_and, Evaluation.key_and,
      Outcome.all_append_of_not_holds (all_not_holds_of_report hf hd hmem hr)]
  · rw [Evaluation.key_or, Evaluation.key_or, if_neg hne, if_neg hne',
      Outcome.any_append_of_holds (any_holds_of_report hf hmem hr)]
  · rw [Evaluation.key_nor, Evaluation.key_nor,
      Outcome.any_append_of_holds (any_holds_of_report hf hmem hr)]

theorem operator_elemMatch_append {operand : Value} {items : List Value}
    (hr : ∃ item ∈ items, (itemReport operand item).holds) (rest : List Value) :
    Evaluation.operator outcomes (Operator.elemMatch.name, operand) (some (.array (items ++ rest))) =
      Evaluation.operator outcomes (Operator.elemMatch.name, operand) (some (.array items)) := by
  obtain ⟨item, hmem, hr⟩ := hr
  exact Outcome.any_append_of_holds (any_holds_of_report (itemReport_follows operand) hmem hr) rest

/-- A search that is not refused fails if no item meets the condition when it is tested by
itself. -/
theorem searchOutcome_not_holds {items : List Value} {c : Value}
    (hd : (searchOutcome items c).deepest ≤ levelLimit)
    (hr : ∀ item ∈ items, (matchCondition (some item) c).holds = false) :
    (searchOutcome items c).holds = false := by
  have hf (item : Value) : (matchCondition (some item) c).Follows
      (Evaluation.condition outcomes c (some item)) :=
    matchCondition_follows (some item) c
  have hsearch : (searchOutcome items c).holds = _ := (any_follows hf hd).1
  rw [hsearch, List.any_eq_false]
  intro item hitem
  rw [hr item hitem]
  exact Bool.false_ne_true

/-- Anything but an array has no items, so each condition decides. -/
theorem operator_all_append {v : Option Value} {cs : List Value}
    (hr : ∃ c ∈ cs, ∀ items, v = some (.array items) →
      ∀ item ∈ items, (matchCondition (some item) c).holds = false) (rest : List Value)
    (hd : (Evaluation.operator outcomes (Operator.all.name, .array cs) v).deepest ≤ levelLimit) :
    Evaluation.operator outcomes (Operator.all.name, .array (cs ++ rest)) v =
      Evaluation.operator outcomes (Operator.all.name, .array cs) v := by
  obtain ⟨c, hmem, hr⟩ := hr
  rw [operator_all] at hd
  rw [operator_all, operator_all]
  by_cases hv : ∃ items, v = some (.array items)
  · obtain ⟨items, rfl⟩ := hv
    simp only [Evaluation.onItems] at hd ⊢
    apply Outcome.all_append_of_not_holds
    rw [Bool.eq_false_iff]
    -- if all searches found an item within the limit, so would the one for the deciding condition
    intro h
    obtain ⟨hholds, hdeepest⟩ := Outcome.holds_all_within_iff.1 ⟨h, hd⟩ c hmem
    have hno := searchOutcome_not_holds hdeepest (hr items rfl)
    exact Bool.false_ne_true (hno.symm.trans hholds)
  · have hv (items : List Value) : v ≠ some (.array items) := fun h => hv ⟨items, h⟩
    rw [onItems_of_not_array outcomes hv, onItems_of_not_array outcomes hv]

/-! ## Spoiled lists -/

theorem key_of_spoiled {χ : Type} (k : Checks χ) {c : Combinator}
    (hc : c ∈ [Combinator.and, .or, .nor]) {u : Value} (hu : u.isObject = false)
    (before after : List Value) (document : Value) :
    Evaluation.key k (c.name, .array (before ++ u :: after)) document =
      k.fail (.malformedRule c) := by
  have hn : Combinator.ofName? c.name = some c := by cases c <;> rfl
  apply Evaluation.key_of_not_accepts k hn
  simp only [List.mem_cons, List.not_mem_nil, or_false] at hc
  rcases hc with rfl | rfl | rfl <;> simp [Combinator.accepts, hu]

/-- What comes after the member that decides a list has no say. `$and` is decided by a rule
that does not hold, `$or` and `$nor` by one that does, `$elemMatch` by an item that is what
it asks for, and `$all` by a condition that no item meets: if a list up to there is not
refused for its nesting, all lists that begin with it have the same report, and wherever
such a list is tested, what follows the beginning makes no difference. But a list with a
member that is no object is no list of rules, and such a key is a problem and nothing else:
no rule in the list is tested. -/
theorem decided_lists :
    let k : Checks (Check Progress) := (limitedTo levelLimit).checks
    (∀ c ∈ [Combinator.and, .or, .nor], ∀ (document : Value) (rules : List Rule),
      (∃ r ∈ rules, (r.evaluate document).holds = c.decidedBy) → ∀ rest rest' : List Rule,
        (((Rule.combined c rules).evaluate document).tooDeepCount = 0 →
          (Rule.combined c (rules ++ rest)).evaluate document =
            (Rule.combined c (rules ++ rest')).evaluate document) ∧
        Check.SameWithinLimit (Evaluation.key k (c.name, .ofRules (rules ++ rest)) document)
          (Evaluation.key k (c.name, .ofRules rules) document)) ∧
    (∀ (operand : Value) (items : List Value), (∃ item ∈ items, (itemReport operand item).holds) →
      ∀ rest rest' : List Value,
        let report (items : List Value) :=
          matchCondition (some (.array items)) (.operation .elemMatch operand)
        let check (items : List Value) :=
          Evaluation.operator k (Operator.elemMatch.name, operand) (some (.array items))
        ((report items).tooDeepCount = 0 → report (items ++ rest) = report (items ++ rest')) ∧
          Check.SameWithinLimit (check (items ++ rest)) (check items)) ∧
    (∀ (v : Option Value) (cs : List Value),
      (∃ c ∈ cs, ∀ items, v = some (.array items) →
        ∀ item ∈ items, (matchCondition (some item) c).holds = false) →
      ∀ rest rest' : List Value,
        let report (cs : List Value) := matchCondition v (.operation .all (.array cs))
        let check (cs : List Value) := Evaluation.operator k (Operator.all.name, .array cs) v
        ((report cs).tooDeepCount = 0 → report (cs ++ rest) = report (cs ++ rest')) ∧
          Check.SameWithinLimit (check (cs ++ rest)) (check cs)) ∧
    ∀ c ∈ [Combinator.and, .or, .nor], ∀ (document u : Value) (before after : List Value),
      u.isObject = false →
        let f : String × Value := (c.name, .array (before ++ u :: after))
        Rule.evaluate ⟨[f]⟩ document = ⟨false, [.malformedRule c]⟩ ∧
          Evaluation.key k f document = k.fail (.malformedRule c) := by
  intro k
  refine ⟨?_, ?_, ?_, ?_⟩
  · intro c hc document rules hr rest rest'
    refine ⟨fun h0 => ?_, key_sameWithinLimit (key_ofRules_append hc hr rest)⟩
    have hf (rules : List Rule) := evaluate_single_follows (c.name, .ofRules rules) document
    have hrest (rest : List Rule) : (Rule.combined c (rules ++ rest)).evaluate document =
        (Rule.combined c rules).evaluate document :=
      (hf _).unique (hf _) (key_ofRules_append hc hr rest) h0
    rw [hrest rest, hrest rest']
  · intro operand items hr rest rest' report check
    refine ⟨fun h0 => ?_, operator_sameWithinLimit fun _ => operator_elemMatch_append hr rest⟩
    have hf (items : List Value) := operation_follows .elemMatch operand (some (.array items))
    have hrest (rest : List Value) : report (items ++ rest) = report items :=
      (hf _).unique (hf _) (fun _ => operator_elemMatch_append hr rest) h0
    rw [hrest rest, hrest rest']
  · intro v cs hr rest rest' report check
    refine ⟨fun h0 => ?_, operator_sameWithinLimit (operator_all_append hr rest)⟩
    have hf (cs : List Value) := operation_follows .all (.array cs) v
    have hrest (rest : List Value) : report (cs ++ rest) = report cs :=
      (hf _).unique (hf _) (operator_all_append hr rest) h0
    rw [hrest rest, hrest rest']
  · intro c hc document u before after hu f
    refine ⟨?_, key_of_spoiled k hc hu before after document⟩
    have hf := evaluate_single_follows f document
    rw [key_of_spoiled outcomes hc hu] at hf
    exact hf.eq_of_enter rfl

end

/-- After the member that decides there are an operator that does not exist, a combinator
that holds no list, and an object that is nested too deep; in front of that member, the
object would have the rule refused. With 127 levels open, the deciding rule is the last
that can be tested. -/
theorem decided_lists_deep :
    let k : Checks (Check Progress) := (limitedTo levelLimit).checks
    let no : Rule := ⟨[("a", .null)]⟩
    let deep : Rule := Nat.repeat Rule.negated 200 no
    let wrong : Rule := ⟨[("a", .object [("$gtt", .null)]), ("$and", .null)]⟩
    let operand : Value :=
      .object (("b", .object [("$ne", .null)]) :: (Rule.combined .or [no, deep]).conditions)
    let item : Value := .object [("a", .null)]
    let cs : List Value := [.object [("$gtt", .null)], Nat.repeat Value.negated 200 .null]
    let s : Progress := ⟨127, false, [.unknownOperator "$gtt"]⟩
    (((Rule.combined .and [no]).evaluate .null).tooDeepCount = 0 ∧ (no.evaluate .null).holds = false ∧
      (Rule.combined .and ([no] ++ [wrong, deep])).evaluate .null =
        (Rule.combined .and ([no] ++ [])).evaluate .null ∧
      ((Rule.combined .and ([deep] ++ [no])).evaluate .null).tooDeepCount = 1) ∧
    (s.depth ≤ levelLimit ∧ s.aborted = false ∧
      (Evaluation.key k ("$and", .ofRules [no]) .null s).2.aborted = false ∧
      Evaluation.key k ("$and", .ofRules ([no] ++ [wrong, deep])) .null s =
        Evaluation.key k ("$and", .ofRules [no]) .null s) ∧
    ((matchCondition (some (.array [item])) (.operation .elemMatch operand)).tooDeepCount = 0 ∧
      (itemReport operand item).holds ∧
      matchCondition (some (.array ([item] ++ [.object []]))) (.operation .elemMatch operand) =
        matchCondition (some (.array ([item] ++ []))) (.operation .elemMatch operand)) ∧
    ((matchCondition (some (.array [item])) (.operation .all (.array [.null]))).tooDeepCount = 0 ∧
      (matchCondition (some item) .null).holds = false ∧
      matchCondition (some (.array [item])) (.operation .all (.array ([.null] ++ cs))) =
        matchCondition (some (.array [item])) (.operation .all (.array ([.null] ++ [])))) ∧
    Value.null.isObject = false ∧
      Rule.evaluate ⟨[("$nor", .array ([.object wrong.conditions] ++ .null :: []))]⟩ .null =
        ⟨false, [.malformedRule .nor]⟩ := by
  intro k no deep wrong operand item cs s
  obtain ⟨hrules, hitems, hconditions, hspoiled⟩ := decided_lists
  have hno : (no.evaluate .null).holds = false := by decide
  have hitem : (itemReport operand item).holds := by decide +kernel
  have hnull : (matchCondition (some item) .null).holds = false := by decide
  have hnone : ∀ items, some (Value.array [item]) = some (.array items) →
      ∀ u ∈ items, (matchCondition (some u) .null).holds = false := by
    rintro items ⟨⟩ u hu
    rw [List.mem_singleton.1 hu]
    exact hnull
  obtain ⟨hreports, hruns⟩ :=
    hrules .and (by decide) .null [no] ⟨no, by simp, hno⟩ [wrong, deep] []
  have hand : ((Rule.combined .and [no]).evaluate .null).tooDeepCount = 0 := by decide +kernel
  have hrun : (Evaluation.key k ("$and", .ofRules [no]) .null s).2.aborted = false := by
    decide +kernel
  have hmatch : (matchCondition (some (.array [item]))
      (.operation .elemMatch operand)).tooDeepCount = 0 := by
    decide +kernel
  have hall : (matchCondition (some (.array [item]))
      (.operation .all (.array [.null]))).tooDeepCount = 0 := by
    decide +kernel
  refine ⟨⟨hand, hno, hreports hand, by decide +kernel⟩, ⟨by decide, rfl, hrun, ?_⟩,
    ⟨hmatch, hitem, ?_⟩, ⟨hall, hnull, ?_⟩, rfl, ?_⟩
  · exact hruns s (by decide) rfl hrun
  · exact (hitems operand [item] ⟨item, by simp, hitem⟩ [.object []] []).1 hmatch
  · exact (hconditions (some (.array [item])) [.null] ⟨.null, by simp, hnone⟩ cs []).1 hall
  · exact (hspoiled .nor (by decide) .null .null [.object wrong.conditions] [] rfl).1

end Targeting

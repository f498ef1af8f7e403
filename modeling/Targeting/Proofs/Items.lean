import Targeting.Proofs.Paraphrase
import Targeting.Proofs.Shapes
/-!
# Conditions on the items of an array

`$elemMatch` looks for an item that is what it asks for, and what it reports is what
the items up to that one report when they are tested by themselves
(`elemMatch_searches`). `$all` looks for an item for each of its conditions, and so is a
conjunction of searches (`all_searches_for_each`), except that it compares items with
an object that is not of operators, where `$elemMatch` reads that object as a rule.
-/

namespace Targeting

/-! ## Searches -/

namespace Outcome

variable {α : Type}

theorem deepest_andThen (o p : Outcome) :
    (outcomes.andThen o p).deepest = if o.holds then max o.deepest p.deepest else o.deepest := by
  cases h : o.holds <;> simp [Checks.andThen, h]

theorem deepest_orElse (o p : Outcome) :
    (outcomes.orElse o p).deepest = if o.holds then o.deepest else max o.deepest p.deepest := by
  cases h : o.holds <;> simp [Checks.orElse, h]

theorem problems_orElse (o p : Outcome) :
    (outcomes.orElse o p).problems = if o.holds then o.problems else o.problems ++ p.problems := by
  cases h : o.holds <;> simp [Checks.orElse, h]

/-- Tests that all hold are all run, so together they are as deep as the deepest. -/
theorem holds_all_within_iff {test : α → Outcome} {as : List α} {n : Nat} :
    ((outcomes.all test as).holds ∧ (outcomes.all test as).deepest ≤ n) ↔
      ∀ a ∈ as, (test a).holds ∧ (test a).deepest ≤ n := by
  induction as with
  | nil => simp [Checks.all]
  | cons a as ih =>
    rw [List.forall_mem_cons, ← ih, Checks.all, holds_andThen, deepest_andThen]
    cases h : (test a).holds with
    | true => simp only [if_true, true_and, Bool.true_and, Nat.max_le, and_left_comm]
    | false => simp

end Outcome

/-- The items up to and including the first that passes, or all of them. -/
def upToFirst {α : Type} (passes : α → Bool) (items : List α) : List α :=
  items.take (items.findIdx passes + 1)

theorem upToFirst_cons {α : Type} (passes : α → Bool) (a : α) (as : List α) :
    upToFirst passes (a :: as) = if passes a then [a] else a :: upToFirst passes as := by
  cases h : passes a <;> simp [upToFirst, List.findIdx_cons, h]

/-- A search that is not refused finds what the reports of single items say, and meets the
problems of the items up to the one that is found. Items after that one may be refused
when they are tested by themselves. -/
theorem any_follows {α : Type} {test : α → Outcome} {report : α → Report}
    (hf : ∀ a, (report a).Follows (test a)) {as : List α}
    (hd : (outcomes.any test as).deepest ≤ levelLimit) :
    (outcomes.any test as).holds = as.any (fun a => (report a).holds) ∧
      (outcomes.any test as).problems =
        (upToFirst (fun a => (report a).holds) as).flatMap fun a => (report a).diagnostics := by
  induction as with
  | nil => exact ⟨rfl, rfl⟩
  | cons a as ih =>
    rw [Checks.any, Outcome.deepest_orElse] at hd
    have ha : (test a).deepest ≤ levelLimit := by
      split at hd <;> omega
    have hr : report a = ⟨(test a).holds, (test a).problems⟩ := (hf a).within ha
    rw [Checks.any, Outcome.holds_orElse, Outcome.problems_orElse, upToFirst_cons, List.any_cons, hr]
    cases h : (test a).holds with
    | true => simp [hr]
    | false =>
      simp only [h, Bool.false_eq_true, if_false, Nat.max_le] at hd ⊢
      obtain ⟨hholds, hproblems⟩ := ih hd.2
      rw [hholds, hproblems]
      simp [hr]

/-! ## Reports of one level -/

theorem follows_answer (b : Bool) : (Report.mk b []).Follows (outcomes.answer b) where
  within _ := rfl
  beyond h := absurd h (by simp)
  tooDeepCount := rfl

/-- One level alone is never too deep. -/
theorem Report.Follows.eq_of_enter {report : Report} {o : Outcome} (h : report.Follows (outcomes.enter o))
    (hd : o.deepest = 0) : report = ⟨o.holds, o.problems⟩ := by
  have hlimit : (outcomes.enter o).deepest ≤ levelLimit := by
    rw [Outcome.deepest_enter, hd]
    decide
  rw [h.within hlimit, Outcome.holds_enter, Outcome.problems_enter]

theorem Report.Follows.deepest_le_of_enter {report : Report} {o : Outcome}
    (h : report.Follows (outcomes.enter o)) (h0 : report.tooDeepCount = 0) : o.deepest ≤ levelLimit := by
  have hlevels := h.tooDeepCount_eq_zero_iff.1 h0
  rw [Outcome.deepest_enter] at hlevels
  omega

/-- Inside of the level of the operator there is one level less. -/
theorem Report.Follows.holds_enter_iff {report : Report} {o : Outcome}
    (h : report.Follows (outcomes.enter o)) :
    report.holds ↔ o.holds ∧ o.deepest ≤ levelLimit - 1 := by
  have hlimit : o.deepest + 1 ≤ levelLimit ↔ o.deepest ≤ levelLimit - 1 := by
    simp only [levelLimit]
    omega
  rw [h.holds_eq, Bool.and_eq_true, decide_eq_true_eq, Outcome.deepest_enter, Outcome.holds_enter, hlimit]

theorem onItems_of_not_array {χ : Type} (k : Checks χ) {v : Option Value}
    (h : ∀ items, v ≠ some (.array items)) (test : List Value → χ) :
    Evaluation.onItems k v test = k.answer false := by
  unfold Evaluation.onItems
  split
  · exact absurd rfl (h _)
  · rfl

/-! ## One item -/

section
variable [PatternEngine]

/-- The report of one item that is tested by itself for what `$elemMatch` asks: operators
are a condition for it, any other object is a rule for it if it is an object as well, and
anything else is compared with it. -/
def itemReport (operand item : Value) : Report :=
  match operand with
  | .object fields =>
    if isOperatorObject fields then matchCondition (some item) operand
    else if item.isObject then Rule.evaluate ⟨fields⟩ item
    else ⟨false, []⟩
  | _ => ⟨item.equal operand, []⟩

theorem itemReport_follows (operand item : Value) :
    (itemReport operand item).Follows (Evaluation.element outcomes operand item) := by
  cases operand with
  | object fields =>
    simp only [itemReport, Evaluation.element]
    split
    · next ho =>
      have hf := matchCondition_follows (some item) (.object fields)
      simpa only [conditionOutcome, Evaluation.condition, ho, if_true] using hf
    · split
      · exact Rule.evaluate_follows ⟨fields⟩ item
      · next hi =>
        rw [equal_object_of_not_isObject (by simpa using hi)]
        exact follows_answer false
  | _ => exact follows_answer _

/-! ## `$elemMatch` -/

theorem operation_follows (op : Operator) (operand : Value) (v : Option Value) :
    (matchCondition v (.operation op operand)).Follows
      (outcomes.enter (Evaluation.operator outcomes (op.name, operand) v)) := by
  have hf := matchCondition_follows v (.operation op operand)
  rw [conditionOutcome, outcomes_lawful.condition_operation] at hf
  exact hf

/-- A condition of one operator whose answer is known, or whose problem is. -/
theorem matchCondition_operation {op : Operator} {operand : Value} {v : Option Value} {o : Outcome}
    (ho : Evaluation.operator outcomes (op.name, operand) v = o) (hd : o.deepest = 0) :
    matchCondition v (.operation op operand) = ⟨o.holds, o.problems⟩ := by
  have hf := operation_follows op operand v
  rw [ho] at hf
  exact hf.eq_of_enter hd

theorem elemMatch_follows (v : Option Value) (operand : Value) :
    (matchCondition v (.operation .elemMatch operand)).Follows
      (outcomes.enter (Evaluation.onItems outcomes v
        (outcomes.any (Evaluation.element outcomes operand)))) :=
  operation_follows .elemMatch operand v

theorem elemMatch_array {items : List Value} {operand : Value}
    (h0 : (matchCondition (some (.array items)) (.operation .elemMatch operand)).tooDeepCount = 0) :
    matchCondition (some (.array items)) (.operation .elemMatch operand) =
      ⟨items.any fun item => (itemReport operand item).holds,
        (upToFirst (fun item => (itemReport operand item).holds) items).flatMap
          fun item => (itemReport operand item).diagnostics⟩ := by
  have hf : (matchCondition (some (.array items)) (.operation .elemMatch operand)).Follows
      (outcomes.enter (outcomes.any (Evaluation.element outcomes operand) items)) :=
    elemMatch_follows (some (.array items)) operand
  obtain ⟨hholds, hproblems⟩ := any_follows (itemReport_follows operand) (hf.deepest_le_of_enter h0)
  rw [hf.eq_of_tooDeepCount_eq_zero h0, Outcome.holds_enter, Outcome.problems_enter, hholds, hproblems]

theorem elemMatch_of_not_array {v : Option Value} (h : ∀ items, v ≠ some (.array items))
    (operand : Value) : matchCondition v (.operation .elemMatch operand) = ⟨false, []⟩ := by
  have ho : Evaluation.operator outcomes (Operator.elemMatch.name, operand) v = outcomes.answer false :=
    onItems_of_not_array outcomes h _
  exact matchCondition_operation ho rfl

/-- Every object meets a rule without keys, and nothing else does. -/
theorem itemReport_empty (item : Value) : itemReport (.object []) item = ⟨item.isObject, []⟩ := by
  cases item <;> rfl

/-- Of anything but an array `$elemMatch` does not hold. Of an array it holds just if some
item is what it asks for when it is tested by itself, and it reports what the items up to
the first such report. Asked for an object without keys, it holds of the arrays that have
an object. -/
theorem elemMatch_searches :
    (∀ (v : Option Value) (operand : Value), (∀ items, v ≠ some (.array items)) →
      matchCondition v (.operation .elemMatch operand) = ⟨false, []⟩) ∧
    (∀ (items : List Value) (operand : Value),
      let report := matchCondition (some (.array items)) (.operation .elemMatch operand)
      report.tooDeepCount = 0 →
        (report.holds ↔ ∃ item ∈ items, (itemReport operand item).holds) ∧
        report.diagnostics = (upToFirst (fun item => (itemReport operand item).holds) items).flatMap
          fun item => (itemReport operand item).diagnostics) ∧
    ∀ items : List Value,
      matchCondition (some (.array items)) (.operation .elemMatch (.object [])) =
        ⟨items.any Value.isObject, []⟩ := by
  refine ⟨?_, ?_, ?_⟩
  · intro v operand h
    exact elemMatch_of_not_array h operand
  · intro items operand report h0
    have hreport : report = ⟨_, _⟩ := elemMatch_array h0
    rw [hreport, List.any_eq_true]
    exact ⟨.rfl, rfl⟩
  · intro items
    have hnesting : (Value.operation .elemMatch (.object [])).nesting ≤ levelLimit := by decide
    rw [elemMatch_array (matchCondition_tooDeepCount_eq_zero hnesting _)]
    simp [itemReport_empty]

end

/-- Two objects meet the rule, and the second of them is not tested, so the problem is
reported once. -/
theorem elemMatch_searches_mixed :
    let operand : Value := .object [("a", (Value.object [("$gtt", .null)]).negated)]
    let items : List Value := [.null, .object [], .object []]
    let report := matchCondition (some (.array items)) (.operation .elemMatch operand)
    ((∀ us : List Value, none ≠ some (Value.array us)) ∧
      matchCondition none (.operation .elemMatch operand) = ⟨false, []⟩) ∧
    report.tooDeepCount = 0 ∧ report.holds ∧ report.diagnostics = [.unknownOperator "$gtt"] := by
  intro operand items report
  obtain ⟨hnone, harray, -⟩ := elemMatch_searches
  have hn : ∀ us : List Value, none ≠ some (Value.array us) := by simp
  have h0 : report.tooDeepCount = 0 := by decide +kernel
  obtain ⟨hholds, hdiagnostics⟩ := harray items operand h0
  refine ⟨⟨hn, hnone none operand hn⟩, h0, hholds.2 ⟨.object [], by simp [items], ?_⟩, ?_⟩
  · decide +kernel
  · refine hdiagnostics.trans ?_
    decide +kernel

/-! ## `$all` -/

section
variable [PatternEngine]

/-- Whether an item is found for a condition. -/
def searchOutcome (items : List Value) (c : Value) : Outcome :=
  outcomes.any (fun item => Evaluation.condition outcomes c (some item)) items

theorem operator_all (cs : List Value) (v : Option Value) :
    Evaluation.operator outcomes (Operator.all.name, .array cs) v =
      Evaluation.onItems outcomes v fun items => outcomes.all (searchOutcome items) cs := by
  have hcs : Evaluation.hasItems outcomes cs = fun items => outcomes.all (searchOutcome items) cs :=
    funext fun items => Evaluation.hasItems_eq_all outcomes cs items
  rw [← hcs]
  rfl

theorem all_follows (v : Option Value) (cs : List Value) :
    (matchCondition v (.operation .all (.array cs))).Follows
      (outcomes.enter (Evaluation.onItems outcomes v fun items =>
        outcomes.all (searchOutcome items) cs)) := by
  rw [← operator_all]
  exact operation_follows .all (.array cs) v

/-- Whether every search finds an item, and opens no more than `n` levels for it. -/
def FindsAll (n : Nat) (items cs : List Value) : Prop :=
  ∀ c ∈ cs, (searchOutcome items c).holds ∧ (searchOutcome items c).deepest ≤ n

theorem findsAll_iff {n : Nat} {items cs : List Value} : FindsAll n items cs ↔
    (outcomes.all (searchOutcome items) cs).holds ∧
      (outcomes.all (searchOutcome items) cs).deepest ≤ n :=
  Outcome.holds_all_within_iff.symm

theorem holds_all_iff (v : Option Value) (cs : List Value) :
    (matchCondition v (.operation .all (.array cs))).holds ↔
      ∃ items, v = some (.array items) ∧ FindsAll (levelLimit - 1) items cs := by
  rw [(all_follows v cs).holds_enter_iff]
  by_cases h : ∃ items, v = some (.array items)
  · obtain ⟨items, rfl⟩ := h
    simp [findsAll_iff, Evaluation.onItems]
  · rw [onItems_of_not_array _ fun items hv => h ⟨items, hv⟩]
    constructor
    · rintro ⟨hfalse, -⟩
      cases hfalse
    · rintro ⟨items, hv, -⟩
      exact absurd ⟨items, hv⟩ h

theorem holds_elemMatch_iff (items : List Value) {c : Value} (hc : c.isPlainObject = false) :
    (matchCondition (some (.array items)) (.operation .elemMatch c)).holds ↔
      (searchOutcome items c).holds ∧ (searchOutcome items c).deepest ≤ levelLimit - 1 := by
  have helement : Evaluation.element outcomes c = fun item => Evaluation.condition outcomes c (some item) :=
    funext fun item => Evaluation.element_of_not_isPlainObject outcomes hc item
  have hf := elemMatch_follows (some (.array items)) c
  rw [helement] at hf
  exact hf.holds_enter_iff

/-- An object that is not of operators is compared with the items. -/
theorem search_plainObject {items : List Value} {c : Value} (hc : c.isPlainObject) (n : Nat) :
    (searchOutcome items c).holds ∧ (searchOutcome items c).deepest ≤ n ↔
      ∃ item ∈ items, item.equal c := by
  have hliteral : c.isLiteral := (Bool.and_eq_true_iff.1 hc).2
  have hsearch : searchOutcome items c = outcomes.any (fun item => outcomes.answer (item.equal c)) items := by
    simp only [searchOutcome, Evaluation.condition_of_isLiteral outcomes hliteral, Value.equalIfPresent]
  have hdeepest : (searchOutcome items c).deepest ≤ n := by
    rw [hsearch]
    exact (deepest_bounded []).any (fun item => (deepest_bounded []).answer n (item.equal c)) items
  rw [and_iff_left hdeepest, hsearch, Outcome.holds_any, List.any_eq_true]
  exact .rfl

/-- Within the limit it does not count where in the array an item is found. -/
theorem holds_all_iff_of_not_tooDeep {items cs : List Value}
    (h0 : (matchCondition (some (.array items)) (.operation .all (.array cs))).tooDeepCount = 0) :
    (matchCondition (some (.array items)) (.operation .all (.array cs))).holds ↔
      ∀ c ∈ cs, ∃ item ∈ items, (Evaluation.condition outcomes c (some item)).holds := by
  rw [(all_follows _ cs).eq_of_tooDeepCount_eq_zero h0]
  simp [Evaluation.onItems, searchOutcome]

/-- `$all` holds of the arrays that `$elemMatch` holds of for each condition in its list;
only an object that is not of operators is compared with the items. So lists are put
together by conjunction, and it does not count in which order or how often conditions
and items are listed, unless an array is refused for its nesting. Of no conditions
`$all` holds for just the arrays. -/
theorem all_searches_for_each :
    let all (v : Option Value) (cs : List Value) := matchCondition v (.operation .all (.array cs))
    (∀ v cs, (all v cs).holds ↔ ∃ items, v = some (.array items) ∧ ∀ c ∈ cs,
      if c.isPlainObject then ∃ item ∈ items, item.equal c
      else (matchCondition v (.operation .elemMatch c)).holds) ∧
    (∀ v cs cs', (all v (cs ++ cs')).holds = ((all v cs).holds && (all v cs').holds)) ∧
    (∀ v cs cs', (∀ c, c ∈ cs ↔ c ∈ cs') → (all v cs).holds = (all v cs').holds) ∧
    (∀ items items' cs, (∀ u, u ∈ items ↔ u ∈ items') →
      (all (some (.array items)) cs).tooDeepCount = 0 →
      (all (some (.array items')) cs).tooDeepCount = 0 →
      (all (some (.array items)) cs).holds = (all (some (.array items')) cs).holds) ∧
    ∀ v, (all v []).holds ↔ ∃ items, v = some (.array items) := by
  intro all
  refine ⟨?_, ?_, ?_, ?_, ?_⟩
  · intro v cs
    rw [holds_all_iff]
    refine exists_congr fun items => and_congr_right fun hv => forall₂_congr fun c _ => ?_
    subst hv
    split
    · next hc => exact search_plainObject hc _
    · next hc => exact (holds_elemMatch_iff items (by simpa using hc)).symm
  · intro v cs cs'
    rw [Bool.eq_iff_iff, Bool.and_eq_true, holds_all_iff, holds_all_iff, holds_all_iff]
    constructor
    · rintro ⟨items, rfl, h⟩
      obtain ⟨hcs, hcs'⟩ := List.forall_mem_append.1 h
      exact ⟨⟨items, rfl, hcs⟩, items, rfl, hcs'⟩
    · rintro ⟨⟨items, rfl, hcs⟩, _, ⟨⟩, hcs'⟩
      exact ⟨items, rfl, List.forall_mem_append.2 ⟨hcs, hcs'⟩⟩
  · intro v cs cs' h
    rw [Bool.eq_iff_iff, holds_all_iff, holds_all_iff]
    simp only [FindsAll, h]
  · intro items items' cs h h0 h0'
    rw [Bool.eq_iff_iff, holds_all_iff_of_not_tooDeep h0, holds_all_iff_of_not_tooDeep h0']
    simp only [h]
  · intro v
    simp [all, holds_all_iff, FindsAll]

end

/-- Two conditions of which the one is an object of operators and the other is compared,
and an array in which items are moved and repeated. -/
theorem all_searches_for_each_mixed :
    let ne : Value := .object [("$ne", .null)]
    let empty : Value := .object []
    let cs : List Value := [ne, empty]
    let items : List Value := [.null, empty]
    let items' : List Value := [empty, empty, .null]
    let all (v : Option Value) (cs : List Value) := matchCondition v (.operation .all (.array cs))
    (all (some (.array items)) cs).holds ∧
    ((∀ c, c ∈ cs ↔ c ∈ [empty, ne, ne]) ∧
      (all (some (.array items)) cs).holds = (all (some (.array items)) [empty, ne, ne]).holds) ∧
    (∀ u, u ∈ items ↔ u ∈ items') ∧ (all (some (.array items)) cs).tooDeepCount = 0 ∧
      (all (some (.array items')) cs).tooDeepCount = 0 ∧
      (all (some (.array items)) cs).holds = (all (some (.array items')) cs).holds := by
  intro ne empty cs items items' all
  obtain ⟨hiff, -, hconditions, hitems, -⟩ := all_searches_for_each
  have hcs : ∀ c, c ∈ cs ↔ c ∈ [empty, ne, ne] := by simp [cs, or_comm]
  have hus : ∀ u, u ∈ items ↔ u ∈ items' := by simp [items, items', or_comm]
  have h0 : (all (some (.array items)) cs).tooDeepCount = 0 := by decide +kernel
  have h0' : (all (some (.array items')) cs).tooDeepCount = 0 := by decide +kernel
  refine ⟨?_, ⟨hcs, hconditions _ cs _ hcs⟩, hus, h0, h0', hitems items items' cs hus h0 h0'⟩
  refine (hiff _ cs).2 ⟨items, rfl, ?_⟩
  rw [List.forall_mem_cons, List.forall_mem_singleton]
  refine ⟨?_, empty, by simp [items], by decide⟩
  decide +kernel

end Targeting

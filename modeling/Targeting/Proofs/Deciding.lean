import Targeting.Feature.Decision
import Targeting.Pattern.Matcher
import Targeting.Proofs.Nesting
/-!
# Which rule decides

The first rule that applies decides a feature, and each rule is tested as if it
stood alone: what is reported is what the enabled rules up to that one report, one
after the other (`decide_in_order`). Of the rules before the one that decides only
their number and their problems count, and of those after it nothing does.
-/

namespace Targeting

/-! ## Decisions -/

/-- The same decision where `n` more rules come first. -/
def Decision.behind (n : Nat) : Decision → Decision
  | .forced i value => .forced (n + i) value
  | .needsAssignment i rule => .needsAssignment (n + i) rule
  | .default value => .default value

theorem Feature.decisionOf_map (f : Feature) (n : Nat) (found : Option (Nat × FeatureRule)) :
    f.decisionOf (found.map fun p => (n + p.1, p.2)) = (f.decisionOf found).behind n := by
  cases found with
  | none => rfl
  | some p =>
    simp only [Option.map_some, decisionOf]
    cases p.2.type <;> rfl

/-! ## Rules that apply -/

section
variable [PatternEngine]

/-- Whether a rule is enabled and its condition holds when it is tested alone. -/
def FeatureRule.AppliesTo (r : FeatureRule) (document : Value) : Prop :=
  r.enabled ∧ (r.condition.evaluate document).holds

instance (r : FeatureRule) (document : Value) : Decidable (r.AppliesTo document) :=
  inferInstanceAs (Decidable (_ ∧ _))

/-- What the enabled among the rules report, each tested alone. -/
def reportedAlone (document : Value) (rules : List FeatureRule) : List Diagnostic :=
  (rules.filter (·.enabled)).flatMap fun r => (r.condition.evaluate document).diagnostics

/-- Whether `r` is the first rule of a feature that applies, and at place `i`. -/
structure Feature.FirstAt (f : Feature) (document : Value) (i : Nat) (r : FeatureRule) : Prop where
  rule : f.rules[i]? = some r
  applies : r.AppliesTo document
  first : ∀ s ∈ f.rules.take i, ¬ s.AppliesTo document

variable {document : Value} {r : FeatureRule}

theorem FeatureRule.holds_evaluate : (r.evaluate document).holds ↔ r.AppliesTo document := by
  unfold evaluate AppliesTo
  split
  · next he => simp [he]
  · next he => simp [he]

theorem reportedAlone_cons (r : FeatureRule) (rules : List FeatureRule) :
    reportedAlone document (r :: rules) =
      (r.evaluate document).diagnostics ++ reportedAlone document rules := by
  unfold FeatureRule.evaluate reportedAlone
  split
  · next he => simp [he]
  · next he => simp [he]

theorem reportedAlone_append (xs ys : List FeatureRule) : reportedAlone document (xs ++ ys) =
    reportedAlone document xs ++ reportedAlone document ys := by
  simp [reportedAlone]

theorem StoredCondition.holds_eq_false_of_tooDeep {c : StoredCondition}
    (h : (c.evaluate document).tooDeepCount ≠ 0) : (c.evaluate document).holds = false := by
  cases c with
  | always => exact absurd rfl h
  | rule r =>
    have hf := r.evaluate_follows document
    rw [evaluate, ne_eq, hf.tooDeepCount_eq_zero_iff, Nat.not_le] at h
    exact (hf.beyond h).1
  | invalid e => rfl

/-- A rule whose condition is no rule does not apply, and neither does one that is
refused for its nesting. -/
theorem FeatureRule.not_appliesTo
    (h : (∃ e, r.condition = .invalid e) ∨ (r.condition.evaluate document).tooDeepCount ≠ 0) :
    ¬ r.AppliesTo document := by
  rintro ⟨-, hr⟩
  rcases h with ⟨e, he⟩ | h
  · rw [he] at hr
    cases hr
  · rw [StoredCondition.holds_eq_false_of_tooDeep h] at hr
    cases hr

/-! ## The first that applies -/

namespace Feature

theorem firstApplying_of_appliesTo (h : r.AppliesTo document) (n : Nat) (rules : List FeatureRule) :
    firstApplying document n (r :: rules) = (some (n, r), (r.evaluate document).diagnostics) := by
  rw [firstApplying]
  simp only [FeatureRule.holds_evaluate.2 h, if_true]

theorem firstApplying_of_not_appliesTo (h : ¬ r.AppliesTo document) (n : Nat)
    (rules : List FeatureRule) :
    firstApplying document n (r :: rules) = ((firstApplying document (n + 1) rules).1,
      (r.evaluate document).diagnostics ++ (firstApplying document (n + 1) rules).2) := by
  rw [← FeatureRule.holds_evaluate, Bool.not_eq_true] at h
  rw [firstApplying]
  simp only [h, Bool.false_eq_true, if_false]

/-- Rules that do not apply only add their problems and move the places on. -/
theorem firstApplying_append {before : List FeatureRule} (h : ∀ r ∈ before, ¬ r.AppliesTo document)
    (n : Nat) (after : List FeatureRule) :
    firstApplying document n (before ++ after) =
      ((firstApplying document (n + before.length) after).1,
        reportedAlone document before ++ (firstApplying document (n + before.length) after).2) := by
  induction before generalizing n with
  | nil => rfl
  | cons r rs ih =>
    obtain ⟨hr, hrs⟩ := List.forall_mem_cons.1 h
    have hn : n + (r :: rs).length = n + 1 + rs.length := by
      rw [List.length_cons]
      omega
    rw [List.cons_append, firstApplying_of_not_appliesTo hr, ih hrs, hn,
      reportedAlone_cons, List.append_assoc]

/-- Behind a rule that applies no rule is tested. -/
theorem firstApplying_append_of_appliesTo {before : List FeatureRule}
    (h : ∃ r ∈ before, r.AppliesTo document) (n : Nat) (after : List FeatureRule) :
    firstApplying document n (before ++ after) = firstApplying document n before := by
  induction before generalizing n with
  | nil => simp at h
  | cons r rs ih =>
    rw [List.cons_append]
    by_cases hr : r.AppliesTo document
    · rw [firstApplying_of_appliesTo hr, firstApplying_of_appliesTo hr]
    · obtain ⟨s, hs, happlies⟩ := h
      have hrs : s ∈ rs := (List.mem_cons.1 hs).resolve_left fun he => hr (he ▸ happlies)
      rw [firstApplying_of_not_appliesTo hr, firstApplying_of_not_appliesTo hr,
        ih ⟨s, hrs, happlies⟩]

/-- Places are counted on from the first. -/
theorem firstApplying_shift (n m : Nat) (rules : List FeatureRule) :
    firstApplying document (n + m) rules =
      ((firstApplying document m rules).1.map fun found => (n + found.1, found.2),
        (firstApplying document m rules).2) := by
  induction rules generalizing m with
  | nil => rfl
  | cons r rs ih =>
    by_cases h : r.AppliesTo document
    · rw [firstApplying_of_appliesTo h, firstApplying_of_appliesTo h]
      rfl
    · rw [firstApplying_of_not_appliesTo h, firstApplying_of_not_appliesTo h, Nat.add_assoc, ih]

variable {f : Feature}

/-- The rules behind some that do not apply decide as if they were all. -/
theorem decide_append {before after : List FeatureRule} (hf : f.rules = before ++ after)
    (h : ∀ r ∈ before, ¬ r.AppliesTo document) :
    f.decide document = ((({ f with rules := after } : Feature).decide document).1.behind before.length,
      reportedAlone document before ++ (({ f with rules := after } : Feature).decide document).2) := by
  have hfirst := firstApplying_append h 0 after
  rw [Nat.zero_add, ← Nat.add_zero before.length, firstApplying_shift] at hfirst
  simp only [decide, hf, hfirst, decisionOf_map]
  rfl

theorem decide_of_firstAt {i : Nat} (h : f.FirstAt document i r) :
    f.decide document = (f.decisionOf (some (i, r)), reportedAlone document (f.rules.take (i + 1))) := by
  obtain ⟨hi, hr⟩ := List.getElem?_eq_some_iff.1 h.rule
  have hlength : (f.rules.take i).length = i := List.length_take_of_le (Nat.le_of_lt hi)
  have hrules : f.rules = f.rules.take i ++ r :: f.rules.drop (i + 1) := by
    rw [← hr, ← List.drop_eq_getElem_cons hi, List.take_append_drop]
  have htake : f.rules.take (i + 1) = f.rules.take i ++ [r] := by
    rw [List.take_add_one, h.rule, Option.toList_some]
  have hreported : reportedAlone document (f.rules.take (i + 1)) =
      reportedAlone document (f.rules.take i) ++ (r.evaluate document).diagnostics := by
    rw [htake, reportedAlone_append, reportedAlone_cons]
    exact congrArg _ (List.append_nil _)
  rw [decide, hreported]
  conv_lhs => rw [hrules]
  rw [firstApplying_append h.first, hlength, Nat.zero_add, firstApplying_of_appliesTo h.applies]

theorem firstAt_or_none (f : Feature) (document : Value) :
    (∃ i r, f.FirstAt document i r) ∨ ∀ r ∈ f.rules, ¬ r.AppliesTo document := by
  cases hfind : f.rules.find? fun r => r.AppliesTo document with
  | none => exact .inr (by simpa using List.find?_eq_none.1 hfind)
  | some r =>
    obtain ⟨hr, before, after, hrules, hbefore⟩ := List.find?_eq_some_iff_append.1 hfind
    refine .inl ⟨before.length, r, ⟨?_, of_decide_eq_true hr, ?_⟩⟩
    · simp [hrules]
    · rw [hrules, List.take_left]
      simpa using hbefore

/-- The first rule that is enabled and whose condition holds decides: its value is
forced, or it is the one to assign a value; and if there is none, the default value
is taken. What is reported is what the enabled rules up to that one report, each
tested alone. Rules that do not apply, as those that are refused or are no rules,
do not change what those behind them decide. -/
theorem decide_in_order (f : Feature) (document : Value) :
    (∀ i r, f.FirstAt document i r →
      (r.type = .force → (f.decide document).1 = .forced i r.value) ∧
      (r.type = .rollout ∨ r.type = .experiment → (f.decide document).1 = .needsAssignment i r) ∧
      (f.decide document).2 = reportedAlone document (f.rules.take (i + 1))) ∧
    ((∀ r ∈ f.rules, ¬ r.AppliesTo document) →
      f.decide document = (.default f.defaultValue, reportedAlone document f.rules)) ∧
    ((∃ i r, f.FirstAt document i r) ∨ ∀ r ∈ f.rules, ¬ r.AppliesTo document) ∧
    (∀ before after, f.rules = before ++ after → (∀ r ∈ before, ¬ r.AppliesTo document) →
      let rest := ({ f with rules := after } : Feature).decide document
      f.decide document = (rest.1.behind before.length, reportedAlone document before ++ rest.2)) ∧
    ∀ r ∈ f.rules, (∃ e, r.condition = .invalid e) ∨
      (r.condition.evaluate document).tooDeepCount ≠ 0 → ¬ r.AppliesTo document := by
  refine ⟨?_, ?_, f.firstAt_or_none document, ?_, ?_⟩
  · intro i r h
    rw [decide_of_firstAt h]
    refine ⟨?_, ?_, rfl⟩
    · intro ht
      simp only [decisionOf, ht]
    · rintro (ht | ht)
      · simp only [decisionOf, ht]
      · simp only [decisionOf, ht]
  · intro h
    have hall := firstApplying_append h 0 []
    rw [List.append_nil] at hall
    rw [decide, hall]
    simp [firstApplying, decisionOf]
  · intro before after hf h
    exact decide_append hf h
  · intro r _ h
    exact FeatureRule.not_appliesTo h

end Feature

end

/-- The fourth rule decides: those before it are disabled, no rule, and refused for
their nesting, and the last would hold too. -/
theorem Feature.decide_in_order_fourth :
    let rule (enabled : Bool) (c : StoredCondition) (value : String) : FeatureRule :=
      ⟨.force, "", c, enabled, value, none, [], [], none, none, none⟩
    let error : Json.Error := ⟨.endInValue, none⟩
    let deep : Value := Nat.repeat (fun c => .object [("$not", c)]) 128 .null
    let found := rule true (.rule ⟨[("$not", .object [("a", .object [("$gtt", .null)])])]⟩) "on"
    let f : Feature := ⟨"f", "", .string, "off", [rule false .always "disabled",
      rule true (.invalid error) "invalid", rule true (.rule ⟨[("a", deep)]⟩) "deep", found,
      rule true .always "last"]⟩
    f.FirstAt .null 3 found ∧ (f.decide .null).1 = .forced 3 "on" ∧
      (f.decide .null).2 =
        [.invalidCondition error, .nestingTooDeep levelLimit, .unknownOperator "$gtt"] := by
  intro rule error deep found f
  have h : f.FirstAt .null 3 found := ⟨rfl, by decide, by decide +kernel⟩
  obtain ⟨hforced, -, hreported⟩ := (decide_in_order f .null).1 3 found h
  refine ⟨h, hforced rfl, ?_⟩
  rw [hreported]
  decide +kernel

end Targeting

import Targeting.Proofs.Accepting
import Targeting.Proofs.Deciding
import Targeting.Proofs.Editing
/-!
# Conditions that are stored as text

A condition is a text inside the text of its feature, and whatever it says, it
keeps neither the feature nor its other rules from being read. Setting the condition
of one rule changes that condition and nothing else, and if the text is no rule, the
feature decides as if that rule were disabled (`set_condition_contained`).
-/

namespace Targeting

open Json (Outline Origin Decoder)

/-! ## Setting a condition -/

/-- Whether what is written of a feature becomes something else by setting the
condition of the rule at a place to a text. Where its parts are written does not
count. -/
def Feature.SetsCondition (j : Nat) (s : String) (o o' : Outline) : Prop :=
  ∃ edited, o.AtMember "rules" (Outline.AtItem j (Outline.SetsMember "condition" (.string 0 0 s)))
    edited ∧ o'.unplaced = edited.unplaced

/-- Whether a feature is written as an object, and its rules as objects. -/
def Feature.OfObjects : Outline → Prop
  | .object _ _ ms _ => ∀ m ∈ ms, m.key = .ok "rules" → ∀ start refused items ending,
    m.value = .array start refused items ending → ∀ item ∈ items,
      ∃ start refused members ending, item = .object start refused members ending
  | _ => False

/-! ## What is decoded after the edit -/

theorem FeatureRule.puts_condition (origin : Origin) (i k : Nat) (s : String) :
    (record origin).Puts "condition" (.string i k s) fun r => { r with condition := .ofText s } where
  field := by
    refine ⟨_, rfl, fun _ => rfl, ?_⟩
    intro o a b h
    obtain ⟨c, -, rfl⟩ := Json.map_eq_ok.1 h
    rfl
  others := by
    simp only [record, List.forall_mem_cons]
    refine ⟨?_, ?_, ?_, ?_, ?_, ?_, ?_, ?_, ?_, ?_, ?_, by simp⟩
    · exact fun _ => Decoder.required_commutes fun _ _ => rfl
    · exact fun _ => Decoder.defaulted_commutes fun _ _ => rfl
    -- the third field is the condition itself
    · exact fun h => absurd rfl h
    all_goals exact fun _ => Decoder.defaulted_commutes fun _ _ => rfl

theorem FeatureRule.decoder_setsMember {origin : Origin} {o o' : Outline} {r : FeatureRule}
    (h : decoder origin o = .ok r) {i k : Nat} {s : String}
    (ho : Outline.SetsMember "condition" (.string i k s) o o') :
    decoder origin o' = .ok { r with condition := .ofText s } := by
  cases o with
  | object start refused ms ending =>
    cases o' with
    | object start' refused' ms' ending' =>
      obtain ⟨rfl, hset⟩ := ho
      exact Decoder.ofMembers_set (puts_condition origin i k s) hset h
    | _ => cases ho
  | _ => cases ho

theorem Feature.puts_rules {origin : Origin} {o : Outline} {rules : List FeatureRule}
    (h : Decoder.list (FeatureRule.decoder origin) o = .ok rules) :
    (record origin).Puts "rules" o fun f => { f with rules := rules } where
  field := by
    refine ⟨_, rfl, ?_, ?_⟩
    · intro f
      exact Json.map_eq_ok.2 ⟨rules, h, rfl⟩
    · intro o a b h
      obtain ⟨c, -, rfl⟩ := Json.map_eq_ok.1 h
      rfl
  others := by
    simp only [record, List.forall_mem_cons]
    refine ⟨?_, ?_, ?_, ?_, ?_, by simp⟩
    · exact fun _ => Decoder.required_commutes fun _ _ => rfl
    · exact fun _ => Decoder.defaulted_commutes fun _ _ => rfl
    · exact fun _ => Decoder.required_commutes fun _ _ => rfl
    · exact fun _ => Decoder.required_commutes fun _ _ => rfl
    · exact fun h => absurd rfl h

/-- The rules of a feature are what its member of that name is decoded to. -/
theorem Feature.rules_of_mem {origin : Origin} {start refused : Nat}
    {ms : List (Json.Member Outline)} {ending : Json.Ending Outline} {f : Feature}
    (h : decoder origin (.object start refused ms ending) = .ok f) {m : Json.Member Outline}
    (hm : m ∈ ms) (hkey : m.key = .ok "rules") :
    Decoder.list (FeatureRule.decoder origin) m.value = .ok f.rules := by
  obtain ⟨_, _, hfill⟩ := Decoder.fill_of_mem rfl h hm hkey
  obtain ⟨rules, hrules, -⟩ := Json.map_eq_ok.1 hfill
  obtain ⟨before, after, rfl⟩ := List.append_of_mem hm
  -- setting the member to the value it has changes nothing
  have hset := Decoder.ofMembers_set (puts_rules hrules) (.replaced hkey hkey rfl) h
  have hf : f.rules = rules := congrArg Feature.rules (Except.ok.inj (h.symm.trans hset))
  rw [hf, hrules]

/-- Setting a condition changes only that condition of the feature that is decoded. -/
theorem Feature.decoder_setsCondition {origin : Origin} {o o' : Outline} {f : Feature}
    (h : decoder origin o = .ok f) {j : Nat} {s : String} (ho : SetsCondition j s o o') :
    ∃ r, f.rules[j]? = some r ∧
      decoder origin o' = .ok { f with rules := f.rules.set j { r with condition := .ofText s } } := by
  obtain ⟨edited, hedited, hplaces⟩ := ho
  suffices ∃ r, f.rules[j]? = some r ∧ decoder origin edited =
      .ok { f with rules := f.rules.set j { r with condition := .ofText s } } by
    -- the edited feature may be written at other places than the one that was decoded
    obtain ⟨r, hr, he⟩ := this
    refine ⟨r, hr, ?_⟩
    rw [← placeless origin, hplaces, placeless origin, he]
  cases o with
  | object start refused ms ending =>
    cases edited with
    | object start' refused' ms' ending' =>
      -- from inside out: the rule, the list of rules, the feature
      obtain ⟨rfl, m, hm, hkey, value, hitem, hset⟩ := hedited
      obtain ⟨item, item', r, hr, hd, hcondition, hlist⟩ :=
        Decoder.list_atItem hitem (rules_of_mem h hm hkey)
      have hrules := hlist (FeatureRule.decoder_setsMember hd hcondition)
      exact ⟨r, hr, Decoder.ofMembers_set (puts_rules hrules) hset h⟩
    | _ => cases hedited
  | _ => cases hedited

/-- A feature that has rules has a member for them. -/
theorem Feature.exists_rules {origin : Origin} {start refused : Nat}
    {ms : List (Json.Member Outline)} {ending : Json.Ending Outline} {f : Feature}
    (h : decoder origin (.object start refused ms ending) = .ok f) (hf : f.rules ≠ []) :
    ∃ m ∈ ms, m.key = .ok "rules" := by
  by_contra hnone
  -- without such a member the rules stay as they are in the blank feature
  refine hf (Decoder.ofMembers_keeps (P := fun f => f.rules = []) ?_ rfl h)
  simp only [record, List.forall_mem_cons]
  refine ⟨?_, ?_, ?_, ?_, ?_, by simp⟩
  · exact fun _ _ _ => Decoder.required_keeps fun _ _ _ _ hf => hf
  · exact fun _ _ _ => Decoder.defaulted_keeps fun _ _ _ _ hf => hf
  · exact fun _ _ _ => Decoder.required_keeps fun _ _ _ _ hf => hf
  · exact fun _ _ _ => Decoder.required_keeps fun _ _ _ _ hf => hf
  · exact fun m hm hkey => absurd ⟨m, hm, hkey⟩ hnone

/-- The condition of every rule can be set. -/
theorem Feature.exists_setsCondition {origin : Origin} {o : Outline} {f : Feature}
    (h : decoder origin o = .ok f) (ho : OfObjects o) {j : Nat} (hj : j < f.rules.length)
    (s : String) : ∃ o', SetsCondition j s o o' := by
  cases o with
  | object start refused ms ending =>
    obtain ⟨m, hm, hkey⟩ := exists_rules h (List.ne_nil_of_length_pos (Nat.zero_lt_of_lt hj))
    have hrules : ∃ value,
        m.value.AtItem j (Outline.SetsMember "condition" (.string 0 0 s)) value := by
      apply Decoder.exists_atItem (rules_of_mem h hm hkey) hj
      intro start refused items ending hvalue item hitem
      obtain ⟨_, _, members, _, rfl⟩ := ho m hm hkey _ _ _ _ hvalue item hitem
      exact Outline.exists_setsMember _ _
    obtain ⟨edited, hedited⟩ := Outline.exists_atMember hm hkey hrules
    exact ⟨edited, edited, hedited, rfl⟩
  | _ => cases ho

/-! ## Rules that do not apply -/

namespace Feature

variable [PatternEngine] {f : Feature} {document : Value} {j : Nat} {r off : FeatureRule}

theorem firstApplying_disabled (h : off.enabled = false) (n : Nat) (rules : List FeatureRule) :
    firstApplying document n (off :: rules) = firstApplying document (n + 1) rules := by
  have hoff : ¬ off.AppliesTo document := by simp [FeatureRule.AppliesTo, h]
  rw [firstApplying_of_not_appliesTo hoff]
  simp [FeatureRule.evaluate, h]

/-- A rule that does not apply leaves the decision to the same rule as a disabled one
in its place does, and reports its problems besides if no earlier rule applies. -/
theorem firstApplying_set (hj : j < f.rules.length) (h : ¬ r.AppliesTo document)
    (hoff : off.enabled = false) : ∃ found before after,
      firstApplying document 0 (f.rules.set j off) = (found, before ++ after) ∧
      firstApplying document 0 (f.rules.set j r) = (found, before ++
        (if ∀ q ∈ f.rules.take j, ¬ q.AppliesTo document then (r.evaluate document).diagnostics
          else []) ++ after) := by
  rw [List.set_eq_take_append_cons_drop, List.set_eq_take_append_cons_drop, if_pos hj, if_pos hj]
  by_cases hfirst : ∀ q ∈ f.rules.take j, ¬ q.AppliesTo document
  · let rest := firstApplying document (0 + (f.rules.take j).length + 1) (f.rules.drop (j + 1))
    refine ⟨rest.1, reportedAlone document (f.rules.take j), rest.2, ?_, ?_⟩
    · rw [firstApplying_append hfirst, firstApplying_disabled hoff]
    · rw [firstApplying_append hfirst, firstApplying_of_not_appliesTo h, if_pos hfirst,
        List.append_assoc]
  · -- an earlier rule decides, so that neither of the two is tested
    have hearlier : ∃ q ∈ f.rules.take j, q.AppliesTo document := by
      simpa using hfirst
    let decided := firstApplying document 0 (f.rules.take j)
    refine ⟨decided.1, [], decided.2, firstApplying_append_of_appliesTo hearlier _ _, ?_⟩
    rw [firstApplying_append_of_appliesTo hearlier, if_neg hfirst]
    rfl

/-- So a feature decides the same with either. -/
theorem decide_set (hj : j < f.rules.length) (h : ¬ r.AppliesTo document) (hoff : off.enabled = false) :
    let set (q : FeatureRule) : Feature := { f with rules := f.rules.set j q }
    ((set r).decide document).1 = ((set off).decide document).1 ∧ ∃ before after,
      ((set off).decide document).2 = before ++ after ∧
      ((set r).decide document).2 = before ++
        (if ∀ q ∈ f.rules.take j, ¬ q.AppliesTo document then (r.evaluate document).diagnostics
          else []) ++ after := by
  obtain ⟨found, before, after, hset, hset'⟩ := firstApplying_set hj h hoff
  intro set
  simp only [decide, set, hset, hset']
  refine ⟨?_, before, after, rfl, rfl⟩
  cases found <;> rfl

end Feature

theorem FeatureRule.evaluate_invalid [PatternEngine] {r : FeatureRule} {e : Json.Error} (h : r.condition = .invalid e)
    (document : Value) :
    (r.evaluate document).diagnostics = if r.enabled then [.invalidCondition e] else [] := by
  unfold evaluate
  split
  · rw [h]
    rfl
  · rfl

/-- Setting the condition of a rule to a text, whatever the text, leaves a feature
that is still read, and in which only that condition is another: none, if the text is
white space, a rule if it is an object, and else what is wrong with it. A rule with no
rule for its condition decides nothing, as if it were disabled; it only reports that,
if it is tested. And a rule that does not apply decides nothing either. -/
theorem set_condition_contained [PatternEngine] (origin : Origin) (o : Outline) (f : Feature)
    (h : Feature.decoder origin o = .ok f) :
    (Feature.OfObjects o → ∀ j < f.rules.length, ∀ s, ∃ o', Feature.SetsCondition j s o o') ∧
    ∀ j s o', Feature.SetsCondition j s o o' → ∃ r, f.rules[j]? = some r ∧
      let r' : FeatureRule := { r with condition := .ofText s }
      let f' : Feature := { f with rules := f.rules.set j r' }
      let off : Feature := { f with rules := f.rules.set j { r with enabled := false } }
      let isBlank := ∀ c ∈ s.toList, c ∈ Text.whiteSpace
      let isObject := ∃ members,
        Json.decodeText Json.depthLimit Outline.toJson s = .ok (.object members)
      Feature.decoder origin o' = .ok f' ∧
      (r'.condition = .always ↔ isBlank) ∧
      ((∃ c, r'.condition = .rule c) ↔ isObject) ∧
      (∀ c, r'.condition = .rule c ↔
        Json.decodeText Json.depthLimit Decoder.value s = .ok (.object c.conditions)) ∧
      ((∃ e, r'.condition = .invalid e) ↔ ¬ isBlank ∧ ¬ isObject) ∧
      ∀ document,
        (∀ e, r'.condition = .invalid e →
          (f'.decide document).1 = (off.decide document).1 ∧ ∃ before after,
            (off.decide document).2 = before ++ after ∧
            (f'.decide document).2 = before ++
              (if r.enabled ∧ ∀ q ∈ f.rules.take j, ¬ q.AppliesTo document
                then [.invalidCondition e] else []) ++ after) ∧
        ((∀ e, r'.condition ≠ .invalid e) → ¬ r'.AppliesTo document →
          (f'.decide document).1 = (off.decide document).1) := by
  refine ⟨fun ho j hj s => Feature.exists_setsCondition h ho hj s, ?_⟩
  intro j s o' hset
  obtain ⟨r, hr, hdecoded⟩ := Feature.decoder_setsCondition h hset
  obtain ⟨hj, -⟩ := List.getElem?_eq_some_iff.1 hr
  refine ⟨r, hr, ?_⟩
  intro r' f' off isBlank isObject
  have hrule : (∃ c, r'.condition = .rule c) ↔ isObject := by
    simp only [r', StoredCondition.ofText_eq_rule]
    exact Rule.exists_ofText_iff
  refine ⟨hdecoded, StoredCondition.ofText_eq_always, hrule, ?_, ?_, ?_⟩
  · intro c
    rw [StoredCondition.ofText_eq_rule, Rule.ofText_eq_ok]
  · rw [← hrule]
    exact StoredCondition.exists_ofText_eq_invalid
  · intro document
    have hdisabled : ({ r with enabled := false } : FeatureRule).enabled = false := rfl
    refine ⟨?_, ?_⟩
    · intro e he
      have hr' : ¬ r'.AppliesTo document := FeatureRule.not_appliesTo (.inl ⟨e, he⟩)
      obtain ⟨hdecision, before, after, hoff, hset⟩ := Feature.decide_set hj hr' hdisabled
      refine ⟨hdecision, before, after, hoff, ?_⟩
      rw [hset, FeatureRule.evaluate_invalid he, ← ite_and]
      simp only [and_comm, r']
    · intro _ hr'
      exact (Feature.decide_set hj hr' hdisabled).1

/-- An opening brace is set as the condition of a rule that has none. -/
theorem set_condition_contained_brace :
    let member (name : String) (value : Outline) : Json.Member Outline := ⟨.ok name, 0, 0, value, 0⟩
    let type := member "type" (.string 0 0 "force")
    let value := member "value" (.string 0 0 "on")
    let top := [member "id" (.string 0 0 "f"), member "valueType" (.string 0 0 "boolean"),
      member "defaultValue" (.string 0 0 "off")]
    let item (members : List (Json.Member Outline)) : Outline := .object 0 0 members (.closed 0)
    let written (rule : Outline) := item (top ++ [member "rules" (.array 0 0 [rule] (.closed 0))])
    let o := written (item ([type] ++ [value]))
    let edited := item ([type] ++ member "condition" (.string 0 0 "\x7b") :: [value])
    let o' := written edited
    let rule : FeatureRule := ⟨.force, "", .always, true, "on", none, [], [], none, none, none⟩
    let f : Feature := ⟨"f", "", .boolean, "off", [rule]⟩
    let f' : Feature := ⟨"f", "", .boolean, "off", [{ rule with condition := .ofText "\x7b" }]⟩
    let error : Json.Error := ⟨.endInObject, some ⟨1, 1⟩⟩
    Feature.decoder .tree o = .ok f ∧ Feature.SetsCondition 0 "\x7b" o o' ∧
      Feature.decoder .tree o' = .ok f' ∧
      (f'.decide .null).1 = .default "off" ∧ (f'.decide .null).2 = [.invalidCondition error] := by
  intro member type value top item written o edited o' rule f f' error
  have ho : Feature.decoder .tree o = .ok f := by rfl
  have hcondition : Outline.SetsMember "condition" (.string 0 0 "\x7b") (item ([type] ++ [value])) edited :=
    ⟨rfl, .added (by simp [type, value, member]) rfl rfl⟩
  have hset : Feature.SetsCondition 0 "\x7b" o o' := by
    refine ⟨o', ⟨rfl, _, List.mem_append_right top List.mem_cons_self, rfl, _, ?_,
      .replaced rfl rfl rfl⟩, rfl⟩
    exact ⟨rfl, _, edited, rfl, hcondition, rfl⟩
  have hchars : "\x7b".toList = ['\x7b'] := by rfl
  have herror : StoredCondition.ofText "\x7b" = .invalid error := by
    simp only [StoredCondition.ofText, Text.isBlankText, Rule.ofText, Json.decodeText,
      Outline.ofText, hchars]
    rfl
  obtain ⟨-, hedit⟩ := set_condition_contained .tree o f ho
  obtain ⟨r, hr, hdecoded, -, -, -, -, hdecide⟩ := hedit 0 "\x7b" o' hset
  cases hr
  obtain ⟨hdecision, before, after, hoff, hreported⟩ := (hdecide .null).1 error herror
  -- with the rule disabled nothing is reported
  obtain ⟨rfl, rfl⟩ := List.append_eq_nil_iff.1 hoff.symm
  exact ⟨ho, hset, hdecoded, hdecision, hreported⟩

end Targeting

import Targeting.Feature.Decision
import Targeting.Feature.Decoder
import Targeting.Pattern.Matcher
import Targeting.Proofs.Reading
/-!
# Rules that are read

The reader of texts opens only so many containers one inside another, and a rule
that it reads nests no more objects than that. This is less than the levels that a
test may open, so a rule that was read is never refused for its nesting, and
neither is a feature whose conditions were (`read_rules_not_tooDeep`).
-/

namespace Targeting

open Json (Outline Decoder Origin)

/-! ## Rules and conditions -/

theorem Rule.nesting_le_of_decoder {o : Outline} {r : Rule} (h : Rule.decoder o = .ok r) :
    r.nesting ≤ o.depth := by
  obtain ⟨fields, hf, rfl⟩ := Json.map_eq_ok.1 h
  cases o with
  | object start refused members ending =>
    rw [Decoder.fields, Json.bind_eq_ok] at hf
    obtain ⟨_, hm, hf⟩ := hf
    rw [Json.bind_eq_ok] at hf
    obtain ⟨_, -, hf⟩ := hf
    rw [Json.pure_eq_ok] at hf
    subst hf
    have hn := Json.nesting_membersToFields_le hm
    exact Nat.succ_le_succ (by simpa [fieldsNesting] using hn)
  | _ => cases hf

/-- A rule read from a text nests no more objects than the reader may have
containers open. -/
theorem Rule.nesting_le_of_ofText {text : String} {r : Rule} (h : Rule.ofText text = .ok r) :
    r.nesting ≤ Json.depthLimit :=
  Nat.le_trans (nesting_le_of_decoder (Json.decodeText_eq_ok h)) (Json.depth_ofText_le _ _)

theorem Rule.tooDeepCount_eq_zero_of_ofText [PatternEngine] {text : String} {r : Rule} (h : Rule.ofText text = .ok r)
    (document : Value) : (r.evaluate document).tooDeepCount = 0 := by
  have hlimit : Json.depthLimit ≤ levelLimit := by decide
  exact r.tooDeepCount_eq_zero (Nat.le_trans (nesting_le_of_ofText h) hlimit) document

theorem StoredCondition.tooDeepCount_ofText [PatternEngine] (text : String) (document : Value) :
    ((ofText text).evaluate document).tooDeepCount = 0 := by
  unfold ofText
  split
  · rfl
  · split
    · next r hr => exact r.tooDeepCount_eq_zero_of_ofText hr document
    · rfl

/-! ## Features -/

/-- Whether the condition of a rule was read from a text. Where a rule has none,
that reads as the empty text does. -/
def FeatureRule.IsRead (r : FeatureRule) : Prop := ∃ text, r.condition = .ofText text

/-- Whether all conditions of a feature were read from texts. -/
def Feature.IsRead (f : Feature) : Prop := ∀ r ∈ f.rules, r.IsRead

theorem FeatureRule.IsRead.tooDeepCount_eq_zero [PatternEngine] {r : FeatureRule} (h : r.IsRead) (document : Value) :
    (r.evaluate document).tooDeepCount = 0 := by
  obtain ⟨text, ht⟩ := h
  unfold FeatureRule.evaluate
  split
  · rw [ht]
    exact StoredCondition.tooDeepCount_ofText text document
  · rfl

theorem Feature.tooDeep_firstApplying [PatternEngine] {rules : List FeatureRule} (h : ∀ r ∈ rules, r.IsRead)
    (document : Value) (index : Nat) :
    (firstApplying document index rules).2.countP Diagnostic.isNestingTooDeep = 0 := by
  induction rules generalizing index with
  | nil => rfl
  | cons r rs ih =>
    obtain ⟨hr, hrs⟩ := List.forall_mem_cons.1 h
    have h0 := hr.tooDeepCount_eq_zero document
    unfold firstApplying
    dsimp only
    split
    · exact h0
    · rw [List.countP_append, ih hrs]
      exact h0

theorem StoredCondition.isRead_of_decoder {o : Outline} {c : StoredCondition}
    (h : decoder o = .ok c) : ∃ text, c = .ofText text := by
  cases o with
  | string start stop s =>
    cases h
    exact ⟨s, rfl⟩
  | null start stop =>
    cases h
    exact ⟨"", rfl⟩
  | _ => cases h

theorem FeatureRule.isRead_of_decoder {origin : Origin} {o : Outline} {r : FeatureRule}
    (h : decoder origin o = .ok r) : r.IsRead := by
  refine Decoder.record_keeps ?_ ⟨"", rfl⟩ h
  -- only the third field, the condition, has to do with it
  simp only [record, List.forall_mem_cons]
  refine ⟨?_, ?_, ?_, ?_, ?_, ?_, ?_, ?_, ?_, ?_, ?_, by simp⟩
  · exact Decoder.required_keeps fun _ _ _ _ hr => hr
  · exact Decoder.defaulted_keeps fun _ _ _ _ hr => hr
  · exact Decoder.defaulted_keeps fun _ _ _ hc _ => StoredCondition.isRead_of_decoder hc
  all_goals exact Decoder.defaulted_keeps fun _ _ _ _ hr => hr

theorem Feature.isRead_of_decoder {origin : Origin} {o : Outline} {f : Feature}
    (h : decoder origin o = .ok f) : f.IsRead := by
  refine Decoder.record_keeps ?_ (by simp [IsRead, record]) h
  simp only [record, List.forall_mem_cons]
  refine ⟨?_, ?_, ?_, ?_, ?_, by simp⟩
  · exact Decoder.required_keeps fun _ _ _ _ hf => hf
  · exact Decoder.defaulted_keeps fun _ _ _ _ hf => hf
  · exact Decoder.required_keeps fun _ _ _ _ hf => hf
  · exact Decoder.required_keeps fun _ _ _ _ hf => hf
  · exact Decoder.defaulted_keeps fun _ _ _ hr _ =>
      Decoder.forall_mem_of_list (fun _ _ => FeatureRule.isRead_of_decoder) hr

/-- A rule or a condition that nests no more objects than levels may be open is
never refused for its nesting, whatever is tested against it. That is so of every
rule that is read from a text, and of every feature with such rules, in particular
of every feature that is decoded. -/
theorem read_rules_not_tooDeep [PatternEngine] :
    (∀ r : Rule, r.nesting ≤ levelLimit → ∀ document, (r.evaluate document).tooDeepCount = 0) ∧
    (∀ c : Value, c.nesting ≤ levelLimit → ∀ v, (matchCondition v c).tooDeepCount = 0) ∧
    (∀ text r, Rule.ofText text = .ok r → ∀ document, (r.evaluate document).tooDeepCount = 0) ∧
    (∀ f : Feature, f.IsRead → ∀ document,
      (f.decide document).2.countP Diagnostic.isNestingTooDeep = 0) ∧
    ∀ origin o f, Feature.decoder origin o = .ok f → f.IsRead := by
  refine ⟨?_, ?_, ?_, ?_, ?_⟩
  · intro r hr document
    exact r.tooDeepCount_eq_zero hr document
  · intro c hc v
    exact matchCondition_tooDeepCount_eq_zero hc v
  · intro text r hr document
    exact r.tooDeepCount_eq_zero_of_ofText hr document
  · intro f hf document
    exact Feature.tooDeep_firstApplying hf document 0
  · intro origin o f hf
    exact Feature.isRead_of_decoder hf

/-- A rule and a condition as deep as may be, and a rule and a feature that are
read. -/
theorem read_rules_not_tooDeep_at_limit :
    let chain (n : Nat) : Value := (List.replicate n "$not").foldr (fun name c => .object [(name, c)]) .null
    let r : Rule := ⟨[("a", chain 127)]⟩
    let s : Rule := ⟨[("a", .object [("$gt", .null)])]⟩
    let o : Outline := .array 0 0 [.string 0 0 "f", .string 0 0 "", .string 0 0 "boolean", .string 0 0 "off",
      .array 0 0 [.array 0 0 [.string 0 0 "force", .string 0 0 "", .string 0 0 "\x7b\x7d"] (.closed 0)]
        (.closed 0)] (.closed 0)
    let f : Feature := ⟨"f", "", .boolean, "off",
      [⟨.force, "", .ofText "\x7b\x7d", true, "", none, [], [], none, none, none⟩]⟩
    (r.nesting ≤ levelLimit ∧ (r.evaluate .null).tooDeepCount = 0) ∧
    ((chain 128).nesting ≤ levelLimit ∧ (matchCondition none (chain 128)).tooDeepCount = 0) ∧
    (Rule.ofText "\x7b\"a\":\x7b\"$gt\":null\x7d\x7d" = .ok s ∧ (s.evaluate .null).tooDeepCount = 0) ∧
    Feature.decoder .tree o = .ok f ∧ f.IsRead ∧
      (f.decide .null).2.countP Diagnostic.isNestingTooDeep = 0 := by
  intro chain r s o f
  obtain ⟨hrule, hcondition, htext, hfeature, hdecoder⟩ := read_rules_not_tooDeep
  have hr : r.nesting ≤ levelLimit := by decide +kernel
  have hc : (chain 128).nesting ≤ levelLimit := by decide +kernel
  have hchars : "\x7b\"a\":\x7b\"$gt\":null\x7d\x7d".toList = ['\x7b', '"', 'a', '"', ':', '\x7b', '"', '$',
    'g', 't', '"', ':', 'n', 'u', 'l', 'l', '\x7d', '\x7d'] := by rfl
  have hs : Rule.ofText "\x7b\"a\":\x7b\"$gt\":null\x7d\x7d" = .ok s := by
    simp only [Rule.ofText, Json.decodeText, Outline.ofText, hchars]
    rfl
  have ho : Feature.decoder .tree o = .ok f := by rfl
  have hf : f.IsRead := hdecoder .tree o f ho
  exact ⟨⟨hr, hrule r hr .null⟩, ⟨hc, hcondition _ hc none⟩, ⟨hs, htext _ s hs .null⟩, ho, hf,
    hfeature f hf .null⟩

end Targeting

import Targeting.Pattern.Matcher
import Targeting.Proofs.Alike
import Targeting.Proofs.Lists
import Targeting.Proofs.Nesting
/-!
# Tests of values alike

Rules and conditions that are alike come to the same when they are tested on
values alike. The order of keys does not count (`evaluate_reordered`), and
neither does anything that equality does not see (`evaluate_equal`).
-/

namespace Targeting

/-! ## Outcomes up to the order of problems -/

structure Outcome.Agree (o p : Outcome) : Prop where
  holds : o.holds = p.holds
  deepest : o.deepest = p.deepest
  problems : o.problems.Perm p.problems

theorem agree_related : outcomes.Related outcomes Outcome.Agree where
  answer b := ⟨rfl, rfl, .refl _⟩
  next {o p f g} h hf := by
    have hg := hf p.holds
    refine ⟨?_, ?_, ?_⟩
    · simpa [h.holds] using hg.holds
    · simp [h.holds, h.deepest, hg.deepest]
    · simpa [h.holds] using h.problems.append hg.problems
  enter h := ⟨h.holds, by simp [h.deepest], by simpa using h.problems⟩
  fail _ := ⟨rfl, rfl, .refl _⟩

namespace Outcome.Agree

theorem refl (o : Outcome) : o.Agree o := ⟨rfl, rfl, .refl _⟩

theorem trans {o p q : Outcome} (h : o.Agree p) (h' : p.Agree q) : o.Agree q :=
  ⟨h.holds.trans h'.holds, h.deepest.trans h'.deepest, h.problems.trans h'.problems⟩

theorem of_eq {o p : Outcome} (h : o = p) : o.Agree p := h ▸ refl o

theorem answer {a b : Bool} (h : a = b) : (outcomes.answer a).Agree (outcomes.answer b) :=
  of_eq (congrArg _ h)

theorem both_left_comm (o p q : Outcome) :
    (outcomes.both o (outcomes.both p q)).Agree (outcomes.both p (outcomes.both o q)) where
  holds := by simp [Bool.and_left_comm]
  deepest := by simp [Nat.max_left_comm]
  problems := by simpa using List.perm_append_comm_assoc ..

end Outcome.Agree

/-- The order in which tests are run does not count if all are. -/
theorem every_perm {α : Type} (test : α → Outcome) {as bs : List α} (h : as.Perm bs) :
    (outcomes.every test as).Agree (outcomes.every test bs) := by
  induction h with
  | nil => exact .refl _
  | cons a _ ih => exact agree_related.both (.refl _) ih
  | swap a b as => exact .both_left_comm ..
  | trans _ _ ih ih' => exact ih.trans ih'

theorem operators_perm [PatternEngine] {xs ys : Fields} (h : xs.Perm ys) (v : Option Value) :
    (Evaluation.operators outcomes xs v).Agree (Evaluation.operators outcomes ys v) := by
  rw [Evaluation.operators_eq_every, Evaluation.operators_eq_every]
  exact every_perm _ h

theorem keys_perm [PatternEngine] {xs ys : Fields} (h : xs.Perm ys) (document : Value) :
    (Evaluation.keys outcomes xs document).Agree (Evaluation.keys outcomes ys document) := by
  rw [Evaluation.keys_eq_every, Evaluation.keys_eq_every]
  exact every_perm _ h

/-! ## Single operators -/

variable {same : Binary64 → Binary64 → Prop}

section
variable {χ : Type} (k : Checks χ) {c c' : Value} {v v' : Option Value}

/-- Only arrays have items, and arrays alike have items alike. -/
theorem onItems_of_alike {R : χ → χ → Prop} (hanswer : R (k.answer false) (k.answer false))
    (hv : Option.Rel (Alike same) v v') {s t : List Value → χ}
    (hst : ∀ {xs ys : List Value}, List.Forall₂ (Alike same) xs ys → R (s xs) (t ys)) :
    R (Evaluation.onItems k v s) (Evaluation.onItems k v' t) := by
  cases hv with
  | none => exact hanswer
  | some hu =>
    cases hu with
    | array hx => exact hst hx
    | _ => exact hanswer

variable [PatternEngine] (hs : Sameness same)
include hs

theorem searchPattern_eq_of_alike (hc : Alike same c c') (hv : Option.Rel (Alike same) v v') :
    Evaluation.searchPattern k v c = Evaluation.searchPattern k v' c' := by
  cases hc with
  | string pattern => simp only [Evaluation.searchPattern, Alike.text?_eq hs hv]
  | _ => rfl

theorem simple_eq_of_alike (op : Operator) (hc : Alike same c c') (hv : Option.Rel (Alike same) v v') :
    Evaluation.simple k op v c = Evaluation.simple k op v' c' := by
  cases op with
  | eq => exact congrArg k.answer (Alike.equalIfPresent_eq hs hv hc)
  | ne => exact congrArg (fun b => k.answer !b) (Alike.equalIfPresent_eq hs hv hc)
  | gt | gte | lt | lte => exact congrArg k.answer (Alike.isOrdered_eq hs _ hv hc)
  | regex => exact searchPattern_eq_of_alike k hs hc hv
  | isIn =>
    cases hc with
    | array hcs => exact congrArg k.answer (Alike.isAmong_eq hs hv hcs)
    | _ => rfl
  | notIn =>
    cases hc with
    | array hcs => exact congrArg (fun b => k.answer !b) (Alike.isAmong_eq hs hv hcs)
    | _ => rfl
  | «exists» =>
    simp only [Evaluation.simple, hc.asksForPresence_eq hs]
    cases hv <;> rfl
  | type => exact congrArg k.answer (Alike.hasNamedKind_eq hv hc)
  | size | elemMatch | all | not => rfl

end

/-! ## Evaluations -/

section
variable [PatternEngine]

mutual
theorem condition_agree (hs : Sameness same) :
    ∀ (c : Value) {c' : Value} {v v' : Option Value}, Alike same c c' →
      Option.Rel (Alike same) v v' →
      (Evaluation.condition outcomes c v).Agree (Evaluation.condition outcomes c' v')
  | .object xs, .object _, _, _, .object hn hx, hv => by
    simp only [Evaluation.condition, isOperatorObject_eq hx]
    split
    · exact agree_related.enter (operators_agree hs xs hx hv)
    · exact .answer (Alike.equalIfPresent_eq hs hv (.object hn hx))
  | .null, _, _, _, .null, hv => .answer (Alike.equalIfPresent_eq hs hv .null)
  | .bool _, _, _, _, .bool b, hv => .answer (Alike.equalIfPresent_eq hs hv (.bool b))
  | .number _, _, _, _, .number hx, hv => .answer (Alike.equalIfPresent_eq hs hv (.number hx))
  | .string _, _, _, _, .string s, hv => .answer (Alike.equalIfPresent_eq hs hv (.string s))
  | .array _, _, _, _, .array hx, hv => .answer (Alike.equalIfPresent_eq hs hv (.array hx))
termination_by structural c => c

theorem operators_agree (hs : Sameness same) :
    ∀ (xs : Fields) {ys : Fields} {v v' : Option Value}, Paired (Alike same) xs ys →
      Option.Rel (Alike same) v v' →
      (Evaluation.operators outcomes xs v).Agree (Evaluation.operators outcomes ys v')
  | [], _, _, _, .nil, _ => .refl _
  | f :: xs, _, _, v', .cons hx hxs hp, hv =>
    (agree_related.both (operator_agree hs f hx hv) (operators_agree hs xs hxs hv)).trans
      (operators_perm hp.symm v')
termination_by structural xs => xs

theorem operator_agree (hs : Sameness same) :
    ∀ (f : String × Value) {c' : Value} {v v' : Option Value}, Alike same f.2 c' →
      Option.Rel (Alike same) v v' →
      (Evaluation.operator outcomes f v).Agree (Evaluation.operator outcomes (f.1, c') v')
  | (name, c), c', v, v', hc, hv => by
    simp only [Evaluation.operator]
    cases Operator.ofName? name with
    | none => exact .refl _
    | some op =>
      cases op with
      | not => exact agree_related.not (condition_agree hs c hc hv)
      | size =>
        refine onItems_of_alike outcomes (.refl _) hv fun {xs ys} hx => ?_
        rw [hx.length_eq]
        exact condition_agree hs c hc (.some (.number (hs.ofNat _)))
      | elemMatch =>
        exact onItems_of_alike outcomes (.refl _) hv fun hx => agree_related.any (hx.imp fun _ _ h => element_agree hs c hc h)
      | all => exact containsAll_agree hs c hc hv
      | _ => exact .of_eq (simple_eq_of_alike outcomes hs _ hc hv)
termination_by structural f => f

theorem element_agree (hs : Sameness same) :
    ∀ (c : Value) {c' u u' : Value}, Alike same c c' → Alike same u u' →
      (Evaluation.element outcomes c u).Agree (Evaluation.element outcomes c' u')
  | .object xs, .object _, _, _, .object hn hx, hu => by
    simp only [Evaluation.element, isOperatorObject_eq hx, hu.isObject_eq]
    split
    · exact agree_related.enter (operators_agree hs xs hx (.some hu))
    · split
      · exact agree_related.enter (keys_agree hs xs hx hu)
      · exact .answer (hu.equal_eq hs (.object hn hx))
  | .null, _, _, _, .null, hu => .answer (hu.equal_eq hs .null)
  | .bool _, _, _, _, .bool b, hu => .answer (hu.equal_eq hs (.bool b))
  | .number _, _, _, _, .number hx, hu => .answer (hu.equal_eq hs (.number hx))
  | .string _, _, _, _, .string s, hu => .answer (hu.equal_eq hs (.string s))
  | .array _, _, _, _, .array hx, hu => .answer (hu.equal_eq hs (.array hx))
termination_by structural c => c

theorem containsAll_agree (hs : Sameness same) :
    ∀ (c : Value) {c' : Value} {v v' : Option Value}, Alike same c c' →
      Option.Rel (Alike same) v v' →
      (Evaluation.containsAll outcomes c v).Agree (Evaluation.containsAll outcomes c' v')
  | .array cs, _, _, _, .array hcs, hv =>
    onItems_of_alike outcomes (.refl _) hv fun hx => hasItems_agree hs cs hcs hx
  | .null, _, _, _, .null, _ | .bool _, _, _, _, .bool _, _ | .number _, _, _, _, .number _, _
  | .string _, _, _, _, .string _, _ | .object _, _, _, _, .object .., _ => .refl _
termination_by structural c => c

theorem hasItems_agree (hs : Sameness same) :
    ∀ (cs : List Value) {cs' us us' : List Value}, List.Forall₂ (Alike same) cs cs' →
      List.Forall₂ (Alike same) us us' →
      (Evaluation.hasItems outcomes cs us).Agree (Evaluation.hasItems outcomes cs' us')
  | [], _, _, _, .nil, _ => .refl _
  | c :: cs, _, _, _, .cons hc hcs, hu =>
    agree_related.andThen
      (agree_related.any (hu.imp fun _ _ h => condition_agree hs c hc (.some h)))
      (hasItems_agree hs cs hcs hu)
termination_by structural cs => cs

theorem keys_agree (hs : Sameness same) :
    ∀ (xs : Fields) {ys : Fields} {d d' : Value}, Paired (Alike same) xs ys → Alike same d d' →
      (Evaluation.keys outcomes xs d).Agree (Evaluation.keys outcomes ys d')
  | [], _, _, _, .nil, _ => .refl _
  | f :: xs, _, _, d', .cons hx hxs hp, hd =>
    (agree_related.both (key_agree hs f hx hd) (keys_agree hs xs hxs hd)).trans
      (keys_perm hp.symm d')
termination_by structural xs => xs

theorem key_agree (hs : Sameness same) :
    ∀ (f : String × Value) {c' d d' : Value}, Alike same f.2 c' → Alike same d d' →
      (Evaluation.key outcomes f d).Agree (Evaluation.key outcomes (f.1, c') d')
  | (name, c), c', d, d', hc, hd => by
    simp only [Evaluation.key]
    cases Combinator.ofName? name with
    | none => exact condition_agree hs c hc (hd.resolve _)
    | some combinator =>
      cases combinator with
      | and => exact allOf_agree hs c hc hd
      | or => exact anyOf_agree hs c hc hd
      | nor => exact noneOf_agree hs c hc hd
      | not => exact notOne_agree hs c hc hd
termination_by structural f => f

theorem allOf_agree (hs : Sameness same) :
    ∀ (c : Value) {c' d d' : Value}, Alike same c c' → Alike same d d' →
      (Evaluation.allOf outcomes c d).Agree (Evaluation.allOf outcomes c' d')
  | .array rs, _, _, _, .array hr, hd => by
    simp only [Evaluation.allOf, Alike.all_isObject_eq hr]
    split
    · exact everyRule_agree hs rs hr hd
    · exact .refl _
  | .null, _, _, _, .null, _ | .bool _, _, _, _, .bool _, _ | .number _, _, _, _, .number _, _
  | .string _, _, _, _, .string _, _ | .object _, _, _, _, .object .., _ => .refl _
termination_by structural c => c

theorem anyOf_agree (hs : Sameness same) :
    ∀ (c : Value) {c' d d' : Value}, Alike same c c' → Alike same d d' →
      (Evaluation.anyOf outcomes c d).Agree (Evaluation.anyOf outcomes c' d')
  | .array [], _, _, _, .array .nil, _ => .refl _
  | .array (r :: rs), _, _, _, .array (.cons hr hrs), hd => by
    simp only [Evaluation.anyOf, Alike.all_isObject_eq (.cons hr hrs), List.isEmpty_cons]
    split
    · exact someRule_agree hs (r :: rs) (.cons hr hrs) hd
    · exact .refl _
  | .null, _, _, _, .null, _ | .bool _, _, _, _, .bool _, _ | .number _, _, _, _, .number _, _
  | .string _, _, _, _, .string _, _ | .object _, _, _, _, .object .., _ => .refl _
termination_by structural c => c

theorem noneOf_agree (hs : Sameness same) :
    ∀ (c : Value) {c' d d' : Value}, Alike same c c' → Alike same d d' →
      (Evaluation.noneOf outcomes c d).Agree (Evaluation.noneOf outcomes c' d')
  | .array rs, _, _, _, .array hr, hd => by
    simp only [Evaluation.noneOf, Alike.all_isObject_eq hr]
    split
    · exact agree_related.not (someRule_agree hs rs hr hd)
    · exact .refl _
  | .null, _, _, _, .null, _ | .bool _, _, _, _, .bool _, _ | .number _, _, _, _, .number _, _
  | .string _, _, _, _, .string _, _ | .object _, _, _, _, .object .., _ => .refl _
termination_by structural c => c

theorem notOne_agree (hs : Sameness same) :
    ∀ (c : Value) {c' d d' : Value}, Alike same c c' → Alike same d d' →
      (Evaluation.notOne outcomes c d).Agree (Evaluation.notOne outcomes c' d')
  | .object xs, _, _, _, .object _ hx, hd =>
    agree_related.not (agree_related.enter (keys_agree hs xs hx hd))
  | .null, _, _, _, .null, _ | .bool _, _, _, _, .bool _, _ | .number _, _, _, _, .number _, _
  | .string _, _, _, _, .string _, _ | .array _, _, _, _, .array _, _ => .refl _
termination_by structural c => c

theorem everyRule_agree (hs : Sameness same) :
    ∀ (rs : List Value) {rs' : List Value} {d d' : Value}, List.Forall₂ (Alike same) rs rs' →
      Alike same d d' →
      (Evaluation.everyRule outcomes rs d).Agree (Evaluation.everyRule outcomes rs' d')
  | [], _, _, _, .nil, _ => .refl _
  | r :: rs, _, _, _, .cons hr hrs, hd =>
    agree_related.andThen (listedRule_agree hs r hr hd) (everyRule_agree hs rs hrs hd)
termination_by structural rs => rs

theorem someRule_agree (hs : Sameness same) :
    ∀ (rs : List Value) {rs' : List Value} {d d' : Value}, List.Forall₂ (Alike same) rs rs' →
      Alike same d d' →
      (Evaluation.someRule outcomes rs d).Agree (Evaluation.someRule outcomes rs' d')
  | [], _, _, _, .nil, _ => .refl _
  | r :: rs, _, _, _, .cons hr hrs, hd =>
    agree_related.orElse (listedRule_agree hs r hr hd) (someRule_agree hs rs hrs hd)
termination_by structural rs => rs

theorem listedRule_agree (hs : Sameness same) :
    ∀ (r : Value) {r' d d' : Value}, Alike same r r' → Alike same d d' →
      (Evaluation.listedRule outcomes r d).Agree (Evaluation.listedRule outcomes r' d')
  | .object xs, _, _, _, .object _ hx, hd => agree_related.enter (keys_agree hs xs hx hd)
  | .null, _, _, _, .null, _ | .bool _, _, _, _, .bool _, _ | .number _, _, _, _, .number _, _
  | .string _, _, _, _, .string _, _ | .array _, _, _, _, .array _, _ => .refl _
termination_by structural r => r
end

end

/-! ## Reports -/

/-- Whether two reports are the same up to the order of their problems. If
nesting is too deep for both, only that is compared. -/
structure Report.Agree (a b : Report) : Prop where
  holds : a.holds = b.holds
  tooDeep : a.tooDeepCount = b.tooDeepCount ∧ a.tooDeepCount ≤ 1
  diagnostics : a.tooDeepCount = 0 → a.diagnostics.Perm b.diagnostics

theorem Report.Follows.agree {a b : Report} {o p : Outcome} (ha : a.Follows o) (hb : b.Follows p)
    (h : o.Agree p) : a.Agree b where
  holds := by rw [ha.holds_eq, hb.holds_eq, h.holds, h.deepest]
  tooDeep := by
    rw [ha.tooDeepCount, hb.tooDeepCount, h.deepest]
    split <;> simp
  diagnostics h0 := by
    have hd := ha.tooDeepCount_eq_zero_iff.1 h0
    rw [ha.within hd, hb.within (h.deepest ▸ hd)]
    exact h.problems

theorem evaluate_alike [PatternEngine] (hs : Sameness same) {r r' : Rule} {d d' : Value}
    (hr : Alike same (.object r.conditions) (.object r'.conditions)) (hd : Alike same d d') :
    (r.evaluate d).Agree (r'.evaluate d') := by
  cases hr with
  | object _ hx =>
    exact (r.evaluate_follows d).agree (r'.evaluate_follows d')
      (agree_related.enter (keys_agree hs _ hx hd))

theorem matchCondition_alike [PatternEngine] (hs : Sameness same) {c c' : Value} {v v' : Option Value}
    (hc : Alike same c c') (hv : Option.Rel (Alike same) v v') :
    (matchCondition v c).Agree (matchCondition v' c') :=
  (matchCondition_follows v c).agree (matchCondition_follows v' c') (condition_agree hs c hc hv)

/-! ## The order of keys -/

/-- Whether two values differ at most in the order in which the keys of their
objects are visited. -/
def Reordered (v w : Value) : Prop := Alike (· = ·) v w

theorem sameness_eq : Sameness (· = ·) where
  interchangeable := .inl
  ofNat _ := rfl

/-- The order in which the keys of the objects in a rule and a document are
visited does not count. -/
theorem evaluate_reordered [PatternEngine] {r r' : Rule} {d d' : Value}
    (hr : Reordered (.object r.conditions) (.object r'.conditions)) (hd : Reordered d d') :
    (r.evaluate d).Agree (r'.evaluate d') :=
  evaluate_alike sameness_eq hr hd

theorem evaluate_reordered_nested :
    let r : Rule := ⟨[("a", .null), ("b", .object [("$ne", .null), ("$neq", .null)])]⟩
    let r' : Rule := ⟨[("b", .object [("$neq", .null), ("$ne", .null)]), ("a", .null)]⟩
    let d : Value := .object [("a", .null), ("b", .bool true)]
    let d' : Value := .object [("b", .bool true), ("a", .null)]
    Reordered (.object r.conditions) (.object r'.conditions) ∧ Reordered d d' ∧
      (r.evaluate d).Agree (r'.evaluate d') := by
  intro r r' d d'
  have hb : Reordered (.object [("$ne", .null), ("$neq", .null)])
      (.object [("$neq", .null), ("$ne", .null)]) :=
    .object (by decide) (.cons .null (.cons .null .nil (.refl _)) (.swap _ _ _))
  have hr : Reordered (.object r.conditions) (.object r'.conditions) :=
    .object (by decide) (.cons .null (.cons hb .nil (.refl _)) (.swap _ _ _))
  have hd : Reordered d d' :=
    .object (by decide) (.cons .null (.cons (.bool true) .nil (.refl _)) (.swap _ _ _))
  exact ⟨hr, hd, evaluate_reordered hr hd⟩

end Targeting

import Targeting.Proofs.Outcome
import Targeting.Proofs.Relation
/-!
# Limited nesting

A test that is aborted for its nesting goes on running, with answers that no
longer count. `Limited` says all that a limited check can do, given its outcome
without a limit: it is aborted if that outcome opens too many levels and has the
same answer and problems if not, and once aborted it stays so and reports
problems of entries only. The reports of the two entry points follow.
-/

namespace Targeting

variable {limit : Nat}

/-! ## What a limited check does -/

/-- Whether a limited check does what its outcome says, from any state. -/
structure Limited (limit : Nat) (p : Check Progress) (o : Outcome) : Prop where
  ofEntry : ∀ d ∈ o.problems, d.isOfEntry
  aborted (n : Nat) (ds : List Diagnostic) : ∃ b later,
    (∀ d ∈ later, Diagnostic.isOfEntry d) ∧ p ⟨n, true, ds⟩ = (b, ⟨n, true, ds ++ later⟩)
  within (n : Nat) (ds : List Diagnostic) : n + o.deepest ≤ limit →
    p ⟨n, false, ds⟩ = (o.holds, ⟨n, false, ds ++ o.problems⟩)
  beyond (n : Nat) (ds : List Diagnostic) : n ≤ limit → limit < n + o.deepest → ∃ b later,
    (∀ d ∈ later, Diagnostic.isOfEntry d) ∧ p ⟨n, false, ds⟩ =
      (b, ⟨n, true, ds ++ o.problemsWithin (limit - n) ++ .nestingTooDeep limit :: later⟩)

namespace Limited

theorem answer (b : Bool) : Limited limit ((limitedTo limit).checks.answer b) (outcomes.answer b) where
  ofEntry := by simp
  aborted n ds := ⟨b, [], by simp, by simp [Guard.checks]⟩
  within n ds _ := by simp [Guard.checks]
  beyond n ds hn h := by simp at h; omega

theorem fail {d : Diagnostic} (hd : d.isOfEntry) :
    Limited limit ((limitedTo limit).checks.fail d) (outcomes.fail d) where
  ofEntry := by simp [hd]
  aborted n ds := ⟨false, [d], by simp [hd], rfl⟩
  within n ds _ := rfl
  beyond n ds hn h := by simp at h; omega

theorem enter {p : Check Progress} {o : Outcome} (h : Limited limit p o) :
    Limited limit ((limitedTo limit).checks.enter p) (outcomes.enter o) where
  ofEntry := by simpa using h.ofEntry
  aborted n ds := ⟨false, [], by simp, by simp [Guard.checks, limitedTo]⟩
  within n ds hn := by
    have hd : ¬ limit ≤ n := by simp at hn; omega
    have hp := h.within (n + 1) ds (by simp at hn; omega)
    simp [Guard.checks, limitedTo, hd, hp]
  beyond n ds hn hb := by
    rcases Nat.lt_or_eq_of_le hn with hlt | rfl
    · obtain ⟨b, later, hl, hp⟩ := h.beyond (n + 1) ds hlt (by simp at hb; omega)
      have hd : ¬ limit ≤ n := by omega
      have hs : limit - n = limit - (n + 1) + 1 := by omega
      refine ⟨b, later, hl, ?_⟩
      rw [hs, Outcome.problemsWithin_enter_succ]
      simp [Guard.checks, limitedTo, hd, hp]
    · refine ⟨false, [], by simp, ?_⟩
      rw [Nat.sub_self, Outcome.problemsWithin_enter_zero]
      simp [Guard.checks, limitedTo]

theorem next {p : Check Progress} {o : Outcome} {f : Bool → Check Progress} {g : Bool → Outcome}
    (h : Limited limit p o) (hf : ∀ b, Limited limit (f b) (g b)) :
    Limited limit ((limitedTo limit).checks.next p f) (outcomes.next o g) where
  ofEntry := by
    simpa [or_imp, forall_and] using ⟨h.ofEntry, (hf o.holds).ofEntry⟩
  aborted n ds := by
    obtain ⟨b, later, hl, hp⟩ := h.aborted n ds
    obtain ⟨b', later', hl', hp'⟩ := (hf b).aborted n (ds ++ later)
    refine ⟨b', later ++ later', ?_, ?_⟩
    · simpa [or_imp, forall_and] using ⟨hl, hl'⟩
    · simp [Guard.checks, hp, hp']
  within n ds hn := by
    simp only [Outcome.deepest_next] at hn
    have hp := h.within n ds (by omega)
    have hp' := (hf o.holds).within n (ds ++ o.problems) (by omega)
    simp [Guard.checks, hp, hp']
  beyond n ds hn hb := by
    simp only [Outcome.deepest_next] at hb
    by_cases ho : limit - n < o.deepest
    · -- aborted in the first part, so the second runs aborted whatever the answer
      obtain ⟨b, later, hl, hp⟩ := h.beyond n ds hn (by omega)
      obtain ⟨b', later', hl', hp'⟩ :=
        (hf b).aborted n (ds ++ o.problemsWithin (limit - n) ++ .nestingTooDeep limit :: later)
      refine ⟨b', later ++ later', ?_, ?_⟩
      · simpa [or_imp, forall_and] using ⟨hl, hl'⟩
      · rw [Outcome.problemsWithin_next_of_lt _ ho]
        simp only [Guard.checks, hp, hp']
        simp
    · have hp := h.within n ds (by omega)
      obtain ⟨b, later, hl, hp'⟩ := (hf o.holds).beyond n (ds ++ o.problems) hn (by omega)
      refine ⟨b, later, hl, ?_⟩
      rw [Outcome.problemsWithin_next_of_le _ (by omega)]
      simp [Guard.checks, hp, hp']

/-! ## Aborted checks -/

variable {p : Check Progress} {o : Outcome} {n : Nat}

/-- A check is aborted just if it opens levels beyond the limit. -/
theorem aborted_iff (h : Limited limit p o) (hn : n ≤ limit) (ds : List Diagnostic) :
    (p ⟨n, false, ds⟩).2.aborted ↔ limit < n + o.deepest := by
  by_cases hd : n + o.deepest ≤ limit
  · rw [h.within n ds hd]
    simpa using hd
  · obtain ⟨b, later, -, hrun⟩ := h.beyond n ds hn (by omega)
    rw [hrun]
    simpa using hd

theorem le_of_not_aborted (h : Limited limit p o) (hn : n ≤ limit) {ds : List Diagnostic}
    (ha : (p ⟨n, false, ds⟩).2.aborted = false) : n + o.deepest ≤ limit := by
  have hiff := h.aborted_iff hn ds
  rw [ha] at hiff
  simpa using hiff

end Limited

/-- Limited checks do what their outcomes say. -/
theorem limited_related (limit : Nat) : (limitedTo limit).checks.Related outcomes (Limited limit) where
  answer := Limited.answer
  next := Limited.next
  enter := Limited.enter
  fail := Limited.fail

/-! ## Reports -/

/-- The outcome of a rule for a document, if nothing limits its nesting. -/
def Rule.outcome [PatternEngine] (r : Rule) (document : Value) : Outcome :=
  Evaluation.rule outcomes r.conditions document

/-- The outcome of a condition for a value that may be absent. -/
def conditionOutcome [PatternEngine] (v : Option Value) (c : Value) : Outcome := Evaluation.condition outcomes c v

def Diagnostic.isNestingTooDeep : Diagnostic → Bool
  | .nestingTooDeep _ => true
  | _ => false

theorem Diagnostic.isNestingTooDeep_of_isOfEntry {d : Diagnostic} (h : d.isOfEntry) :
    d.isNestingTooDeep = false := by
  cases d <;> first | rfl | cases h

/-- How often it is reported that nesting is too deep. -/
def Report.tooDeepCount (r : Report) : Nat := r.diagnostics.countP Diagnostic.isNestingTooDeep

theorem tooDeep_countP_eq_zero {ds : List Diagnostic} (h : ∀ d ∈ ds, Diagnostic.isOfEntry d) :
    ds.countP Diagnostic.isNestingTooDeep = 0 := by
  rw [List.countP_eq_zero]
  intro d hd
  simp [Diagnostic.isNestingTooDeep_of_isOfEntry (h d hd)]

/-- Whether a report is what the limit makes of an outcome. -/
structure Report.Follows (report : Report) (o : Outcome) : Prop where
  within : o.deepest ≤ levelLimit → report = ⟨o.holds, o.problems⟩
  beyond : levelLimit < o.deepest → report.holds = false ∧ ∃ later,
    report.diagnostics = o.problemsWithin levelLimit ++ .nestingTooDeep levelLimit :: later
  tooDeepCount : report.tooDeepCount = if o.deepest ≤ levelLimit then 0 else 1

theorem Limited.report_follows {p : Check Progress} {o : Outcome} (h : Limited levelLimit p o) :
    p.report.Follows o := by
  have within (hd : o.deepest ≤ levelLimit) : p.report = ⟨o.holds, o.problems⟩ := by
    simp [Check.report, h.within 0 [] (by omega)]
  have beyond (hd : levelLimit < o.deepest) : ∃ later, (∀ d ∈ later, Diagnostic.isOfEntry d) ∧
      p.report = ⟨false, o.problemsWithin levelLimit ++ .nestingTooDeep levelLimit :: later⟩ := by
    obtain ⟨b, later, hl, hp⟩ := h.beyond 0 [] (by omega) (by omega)
    exact ⟨later, hl, by simp [Check.report, hp]⟩
  refine ⟨within, fun hd => ?_, ?_⟩
  · obtain ⟨later, -, hp⟩ := beyond hd
    exact ⟨by rw [hp], later, by rw [hp]⟩
  · split
    · next hd => rw [within hd]; exact tooDeep_countP_eq_zero h.ofEntry
    · next hd =>
      obtain ⟨later, hl, hp⟩ := beyond (by omega)
      have hw : ∀ d ∈ o.problemsWithin levelLimit, Diagnostic.isOfEntry d := fun d hd =>
        h.ofEntry d (o.mem_problems_of_mem_problemsWithin hd)
      rw [Report.tooDeepCount, hp, List.countP_append, tooDeep_countP_eq_zero hw,
        List.countP_cons_of_pos rfl, tooDeep_countP_eq_zero hl]

theorem Rule.evaluate_follows [PatternEngine] (r : Rule) (document : Value) :
    (r.evaluate document).Follows (r.outcome document) :=
  ((limited_related levelLimit).rule r.conditions document).report_follows

theorem matchCondition_follows [PatternEngine] (v : Option Value) (c : Value) :
    (matchCondition v c).Follows (conditionOutcome v c) :=
  ((limited_related levelLimit).condition c v).report_follows

namespace Report.Follows

variable {report : Report} {o : Outcome}

theorem holds_eq (h : report.Follows o) : report.holds = (o.holds && decide (o.deepest ≤ levelLimit)) := by
  by_cases hd : o.deepest ≤ levelLimit
  · simp [h.within hd, hd]
  · simp [(h.beyond (by omega)).1, hd]

theorem tooDeepCount_eq_zero_iff (h : report.Follows o) :
    report.tooDeepCount = 0 ↔ o.deepest ≤ levelLimit := by
  rw [h.tooDeepCount]
  split <;> simp_all

theorem eq_of_tooDeepCount_eq_zero (h : report.Follows o) (h0 : report.tooDeepCount = 0) :
    report = ⟨o.holds, o.problems⟩ :=
  h.within (h.tooDeepCount_eq_zero_iff.1 h0)

end Report.Follows

end Targeting

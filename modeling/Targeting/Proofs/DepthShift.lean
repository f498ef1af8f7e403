import Targeting.Proofs.Courses
import Targeting.Proofs.Items
/-!
# Tests at another depth

How many levels are open when a test begins decides only whether it is aborted: it is once the
levels that it opens go beyond the limit (`Limited.aborted_iff`). So with fewer levels open the
same test is aborted no sooner, and does the same if it is not aborted (`depth_shift`). A rule of
one path is the condition of that path, one level deeper.
-/

namespace Targeting

/-- Whether a check that begins with `m` levels open is aborted only if it is with `n` open, and
has the same answer and the same reports, in order, if it is aborted with neither. -/
structure Check.Shifts (p : Check Progress) (m n : ℕ) : Prop where
  aborted (ds es : List Diagnostic) : (p ⟨m, false, ds⟩).2.aborted → (p ⟨n, false, es⟩).2.aborted
  same (ds es : List Diagnostic) : (p ⟨n, false, es⟩).2.aborted = false → ∃ b later,
    p ⟨m, false, ds⟩ = (b, ⟨m, false, ds ++ later⟩) ∧
      p ⟨n, false, es⟩ = (b, ⟨n, false, es ++ later⟩)

theorem Limited.shifts {limit m n : ℕ} {p : Check Progress} {o : Outcome} (h : Limited limit p o)
    (hmn : m ≤ n) (hn : n ≤ limit) : p.Shifts m n where
  aborted ds es hm := by
    rw [h.aborted_iff (hmn.trans hn)] at hm
    rw [h.aborted_iff hn]
    omega
  same ds es ha := by
    have hd := h.le_of_not_aborted hn ha
    exact ⟨o.holds, o.problems, h.within m ds (by omega), h.within n es hd⟩

/-- A rule of one path tests the condition of that path. -/
theorem matchCondition_eq_evaluate_single [PatternEngine] {name : String} (hn : Combinator.ofName? name = none)
    (c document : Value) (h0 : ((Rule.single name c).evaluate document).tooDeepCount = 0) :
    matchCondition ((Path.ofText name).resolve document) c =
      (Rule.single name c).evaluate document := by
  have hrule := (Rule.single name c).evaluate_follows document
  have hcondition := matchCondition_follows ((Path.ofText name).resolve document) c
  rw [Rule.outcome, outcomes_lawful.rule_path hn] at hrule
  rw [hrule.eq_of_tooDeepCount_eq_zero h0, hcondition.within (hrule.deepest_le_of_enter h0),
    Outcome.holds_enter, Outcome.problems_enter]
  rfl

/-- A test that begins with fewer levels open is aborted only if it is with more open, and does
the same if it is not aborted with more. A rule of one path and the condition of that path are
tested at depths next to each other, so they have one report unless the rule is refused for its
nesting. -/
theorem depth_shift [PatternEngine] :
    (∀ (t : Test) (m n : ℕ), m ≤ n → n ≤ levelLimit →
      Check.Shifts (t.check (limitedTo levelLimit).checks) m n) ∧
    ∀ name : String, Combinator.ofName? name = none → ∀ c document : Value,
      ((Rule.single name c).evaluate document).tooDeepCount = 0 →
        matchCondition ((Path.ofText name).resolve document) c =
          (Rule.single name c).evaluate document := by
  refine ⟨?_, ?_⟩
  · intro t m n hmn hn
    exact (t.related (limited_related levelLimit)).shifts hmn hn
  · intro name hn c document h0
    exact matchCondition_eq_evaluate_single hn c document h0

/-- A condition of 101 levels can begin with 27 levels open, and with none, but not with 28. One
of 127 levels can be that of a path. -/
theorem depth_shift_at_limit :
    let c : Value := Nat.repeat Value.negated 100 (.object [("$gtt", .null)])
    let check : Check Progress := (Test.condition c none).check (limitedTo levelLimit).checks
    let deepest : Value := Nat.repeat Value.negated 126 (.object [("$exists", .bool false)])
    (0 ≤ 27 ∧ 27 ≤ levelLimit ∧ (check ⟨27, false, []⟩).2.aborted = false ∧
      ∃ b later, check ⟨0, false, [.malformedRule .or]⟩ =
          (b, ⟨0, false, [.malformedRule .or] ++ later⟩) ∧
        check ⟨27, false, []⟩ = (b, ⟨27, false, [] ++ later⟩)) ∧
    (28 ≤ 128 ∧ 128 ≤ levelLimit ∧ (check ⟨28, false, []⟩).2.aborted ∧
      (check ⟨128, false, []⟩).2.aborted) ∧
    Combinator.ofName? "a.$or" = none ∧
      ((Rule.single "a.$or" deepest).evaluate .null).tooDeepCount = 0 ∧
      matchCondition none deepest = (Rule.single "a.$or" deepest).evaluate .null := by
  intro c check deepest
  obtain ⟨hshift, hpath⟩ := depth_shift
  have hnot : (check ⟨27, false, []⟩).2.aborted = false := by decide +kernel
  have habort : (check ⟨28, false, []⟩).2.aborted := by decide +kernel
  have hname : Combinator.ofName? "a.$or" = none := rfl
  have h0 : ((Rule.single "a.$or" deepest).evaluate .null).tooDeepCount = 0 := by decide +kernel
  refine ⟨⟨by decide, by decide, hnot, ?_⟩, ⟨by decide, by decide, habort, ?_⟩, hname, h0, ?_⟩
  · exact (hshift (.condition c none) 0 27 (by decide) (by decide)).same _ _ hnot
  · exact (hshift (.condition c none) 28 128 (by decide) (by decide)).aborted _ _ habort
  · exact hpath "a.$or" hname deepest .null h0

end Targeting

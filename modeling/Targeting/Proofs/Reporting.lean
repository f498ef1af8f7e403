import Targeting.Pattern.Matcher
import Targeting.Proofs.Bounds
/-!
# What is reported

Every problem that a test reports is caused by an entry of the rule that may be
tested, or by nesting (`evaluate_justified`), so a rule that is well formed is
silent on every document. The other way round, an entry of the wrong shape that
every document has tested is reported for every document
(`evaluate_reports_misfits`).
-/

namespace Targeting

/-! ## Only what is caused -/

section
variable [PatternEngine]

theorem Entry.Causes.isOfEntry {e : Entry} {d : Diagnostic} (h : e.Causes d) : d.isOfEntry := by
  unfold Entry.Causes at h
  cases e with
  | key name held =>
    simp only [misfit?, badPattern?, reduceCtorEq, or_false] at h
    split at h
    · split at h
      · cases h
      · cases h
        rfl
    · cases h
  | operator name operand =>
    rcases h with h | h
    · simp only [misfit?] at h
      split at h
      · split at h
        · cases h
        · cases h
          rfl
      · cases h
        rfl
    · simp only [badPattern?] at h
      split at h
      · split at h
        · cases h
        · cases h
          rfl
      · cases h

/-- Whether a check, from any state, reports no more than `es` cause and that
nesting is too deep. -/
def Check.ReportsOnly (limit : Nat) (es : List Entry) (p : Check Progress) : Prop :=
  ∀ s, ∃ later, (p s).2.diagnostics = s.diagnostics ++ later ∧
    ∀ d ∈ later, d = .nestingTooDeep limit ∨ ∃ e ∈ es, e.Causes d

/-- Limited checks report no more than entries cause, also once they are aborted. -/
theorem reportsOnly_bounded (limit : Nat) (es : List Entry) :
    (limitedTo limit).checks.Bounded es fun _ p => p.ReportsOnly limit es where
  answer n b s := ⟨[], by simp [Guard.checks], by simp⟩
  next {n p f} hp hf s := by
    obtain ⟨later, hs, hl⟩ := hp s
    obtain ⟨later', hs', hl'⟩ := hf (p s).1 (p s).2
    refine ⟨later ++ later', ?_, ?_⟩
    · simp only [Guard.checks, hs', hs, List.append_assoc]
    · intro d hd
      exact (List.mem_append.1 hd).elim (hl d) (hl' d)
  enter {n p} hp s := by
    simp only [Guard.checks, limitedTo]
    split
    · exact ⟨[], by simp, by simp⟩
    · split
      · exact ⟨[.nestingTooDeep limit], rfl, by simp⟩
      · exact hp { s with depth := s.depth + 1 }
  fail {e d} n he hd s := by
    refine ⟨[d], rfl, ?_⟩
    intro d' hd'
    rw [List.mem_singleton.1 hd']
    exact .inr ⟨e, he, hd⟩

/-- What a rule is to blame for. -/
inductive Rule.Justifies (r : Rule) : Diagnostic → Prop
  | entry {e : Entry} {d : Diagnostic} : e ∈ r.entries .ever → e.Causes d → r.Justifies d
  | nesting : levelLimit < r.nesting → r.Justifies (.nestingTooDeep levelLimit)

theorem Rule.justifies_of_mem_diagnostics {r : Rule} {document : Value} {d : Diagnostic}
    (h : d ∈ (r.evaluate document).diagnostics) : r.Justifies d := by
  obtain ⟨later, hs, hl⟩ := (reportsOnly_bounded levelLimit _).rule r document {}
  have hd : d ∈ later := by
    simpa only [Rule.evaluate, Check.report, hs, List.nil_append] using h
  rcases hl d hd with rfl | ⟨e, he, hc⟩
  · apply Justifies.nesting
    by_contra hn
    have h0 := r.tooDeepCount_eq_zero (Nat.le_of_not_lt hn) document
    exact List.countP_eq_zero.1 h0 _ h rfl
  · exact .entry he hc

/-- Whether there is nothing to object to in a rule: combinators and operators
that may be tested exist and hold what they take, texts that are to be patterns
compile, and objects are not nested too deep. -/
structure Rule.WellFormed (r : Rule) : Prop where
  combinator {name : String} {held : Value} {combinator : Combinator} :
    .key name held ∈ r.entries .ever → Combinator.ofName? name = some combinator →
      combinator.accepts held
  operator {name : String} {operand : Value} : .operator name operand ∈ r.entries .ever →
    ∃ op, Operator.ofName? name = some op ∧ op.accepts operand
  pattern {name pattern : String} : .operator name (.string pattern) ∈ r.entries .ever →
    Operator.ofName? name = some .regex → ∃ compiled, PatternEngine.compile pattern = .ok compiled
  nesting : r.nesting ≤ levelLimit

theorem Rule.WellFormed.not_justifies {r : Rule} (h : r.WellFormed) (d : Diagnostic) :
    ¬ r.Justifies d := by
  intro hj
  cases hj with
  | nesting hn => exact absurd h.nesting (Nat.not_le_of_lt hn)
  | @entry e _ he hc =>
    cases e with
    | key name held =>
      simp only [Entry.Causes, Entry.misfit?, Entry.badPattern?, reduceCtorEq, or_false] at hc
      split at hc
      · next combinator hn => simp [h.combinator he hn] at hc
      · cases hc
    | operator name operand =>
      obtain ⟨op, ho, ha⟩ := h.operator he
      simp only [Entry.Causes, Entry.misfit?, Entry.badPattern?, ho, ha, if_true, reduceCtorEq,
        false_or] at hc
      split at hc
      · next pattern hop =>
        obtain ⟨compiled, hcompiled⟩ := h.pattern he (ho.trans hop)
        simp [hcompiled] at hc
      · cases hc

/-- Every problem that is reported for a document is caused by an entry of the
rule that may be tested, and is no flaw of a stored condition; and a rule that is
well formed reports none for any document. -/
theorem evaluate_justified (r : Rule) :
    (∀ document, ∀ d ∈ (r.evaluate document).diagnostics, r.Justifies d) ∧
    (∀ document error, .invalidCondition error ∉ (r.evaluate document).diagnostics) ∧
    (r.WellFormed → ∀ document, (r.evaluate document).diagnostics = []) := by
  refine ⟨fun document d hd => Rule.justifies_of_mem_diagnostics hd, ?_, ?_⟩
  · intro document error hd
    cases Rule.justifies_of_mem_diagnostics hd with
    | entry he hc => exact absurd hc.isOfEntry Bool.false_ne_true
  · intro hr document
    rw [List.eq_nil_iff_forall_not_mem]
    intro d hd
    exact hr.not_justifies d (Rule.justifies_of_mem_diagnostics hd)

end

/-- What is written in literals is not reported, although it would be wrong in a
condition. The other rule is to blame for what it has reported. -/
theorem evaluate_justified_literals :
    let wrong : Value := .object [("$gtt", .null)]
    let r : Rule := ⟨[("a", .object [("$in", .array [wrong]), ("$regex", .string "^")]),
      ("b", .object [("$all", .array [.object [("c", wrong)]])])]⟩
    let s : Rule := ⟨[("a", wrong)]⟩
    (r.WellFormed ∧ ∀ document, (r.evaluate document).diagnostics = []) ∧
      .unknownOperator "$gtt" ∈ (s.evaluate .null).diagnostics ∧
      s.Justifies (.unknownOperator "$gtt") := by
  intro wrong r s
  have hentries : r.entries .ever = [
      .key "a" (.object [("$in", .array [wrong]), ("$regex", .string "^")]),
      .operator "$in" (.array [wrong]), .operator "$regex" (.string "^"),
      .key "b" (.object [("$all", .array [.object [("c", wrong)]])]),
      .operator "$all" (.array [.object [("c", wrong)]])] := by
    cbv
  have hr : r.WellFormed := by
    refine ⟨?_, ?_, ?_, by decide⟩
    · intro name held combinator he hn
      simp only [hentries, List.mem_cons, Entry.key.injEq, reduceCtorEq, List.not_mem_nil, or_false,
        false_or] at he
      rcases he with ⟨rfl, -⟩ | ⟨rfl, -⟩ <;> cases hn
    · intro name operand he
      simp only [hentries, List.mem_cons, Entry.operator.injEq, reduceCtorEq, List.not_mem_nil,
        or_false, false_or] at he
      rcases he with ⟨rfl, rfl⟩ | ⟨rfl, rfl⟩ | ⟨rfl, rfl⟩ <;> exact ⟨_, rfl, rfl⟩
    · intro name pattern he _
      simp only [hentries, List.mem_cons, Entry.operator.injEq, Value.string.injEq, reduceCtorEq,
        and_false, List.not_mem_nil, or_false, false_or] at he
      obtain ⟨-, rfl⟩ := he
      exact ⟨_, rfl⟩
  have hs : .unknownOperator "$gtt" ∈ (s.evaluate .null).diagnostics := by decide
  exact ⟨⟨hr, (evaluate_justified r).2.2 hr⟩, hs, (evaluate_justified s).1 .null _ hs⟩

/-! ## All that is always tested -/

section
variable {name : String} {c : Value}

theorem misfits_operator_of_accepts {op : Operator} (hn : Operator.ofName? name = some op)
    (ha : op.accepts c) : (operatorEntries .always (name, c)).filterMap Entry.misfit? =
      if op = .not then (conditionEntries .always c).filterMap Entry.misfit? else [] := by
  rw [operatorEntries, List.filterMap_cons_none (Entry.misfit?_operator_of_accepts hn ha), hn]
  cases op <;> rfl

theorem misfits_operator_of_not_accepts {op : Operator} (hn : Operator.ofName? name = some op)
    (ha : op.accepts c = false) :
    (operatorEntries .always (name, c)).filterMap Entry.misfit? = [.malformedOperand op] := by
  rw [operatorEntries, List.filterMap_cons_some (Entry.misfit?_operator_of_not_accepts hn ha), hn]
  cases op with
  | regex | isIn | notIn | all => rfl
  | _ => cases ha

theorem misfits_key_of_accepts {combinator : Combinator}
    (hn : Combinator.ofName? name = some combinator) (ha : combinator.accepts c) :
    (keyEntries .always (name, c)).filterMap Entry.misfit? =
      if combinator = .not then (ruleEntries .always c).filterMap Entry.misfit? else [] := by
  rw [keyEntries, List.filterMap_cons_none (Entry.misfit?_key_of_accepts hn ha), hn]
  cases combinator <;> rfl

theorem misfits_key_of_not_accepts {combinator : Combinator}
    (hn : Combinator.ofName? name = some combinator) (ha : combinator.accepts c = false) :
    (keyEntries .always (name, c)).filterMap Entry.misfit? = [.malformedRule combinator] := by
  rw [keyEntries, List.filterMap_cons_some (Entry.misfit?_key_of_not_accepts hn ha), hn]
  cases combinator with
  | not =>
    cases c with
    | object => cases ha
    | _ => rfl
  | _ => rfl

end

section
open Evaluation
variable [PatternEngine]

mutual
theorem condition_reports : ∀ (c : Value) (v : Option Value),
    ((conditionEntries .always c).filterMap Entry.misfit?).Sublist (condition outcomes c v).problems
  | .object fields, v => by
    simp only [conditionEntries, condition]
    split
    · rw [Outcome.problems_enter]
      exact operators_report fields v
    · exact List.nil_sublist _
  | .null, _ | .bool _, _ | .number _, _ | .string _, _ | .array _, _ => List.nil_sublist _
termination_by structural c => c

theorem operators_report : ∀ (fields : Fields) (v : Option Value),
    ((operatorsEntries .always fields).filterMap Entry.misfit?).Sublist (operators outcomes fields v).problems
  | [], _ => List.nil_sublist _
  | f :: rest, v => by
    rw [operatorsEntries, List.filterMap_append, operators, Outcome.problems_both]
    exact (operator_reports f v).append (operators_report rest v)
termination_by structural fields => fields

theorem operator_reports : ∀ (f : String × Value) (v : Option Value),
    ((operatorEntries .always f).filterMap Entry.misfit?).Sublist (operator outcomes f v).problems
  | (name, operand), v => by
    cases hn : Operator.ofName? name with
    | none =>
      rw [operator_of_unknown outcomes hn, operatorEntries,
        List.filterMap_cons_some (Entry.misfit?_operator_of_unknown hn), hn]
      exact List.Sublist.refl _
    | some op =>
      cases ha : op.accepts operand with
      | false =>
        rw [operator_of_not_accepts outcomes hn ha, misfits_operator_of_not_accepts hn ha]
        exact List.Sublist.refl _
      | true =>
        rw [misfits_operator_of_accepts hn ha]
        split
        · next ho =>
          subst ho
          simp only [operator, hn, Outcome.problems_not]
          exact condition_reports operand v
        · exact List.nil_sublist _
termination_by structural f => f
end

mutual
theorem keys_report : ∀ (fields : Fields) (document : Value),
    ((keysEntries .always fields).filterMap Entry.misfit?).Sublist (keys outcomes fields document).problems
  | [], _ => List.nil_sublist _
  | f :: rest, document => by
    rw [keysEntries, List.filterMap_append, keys, Outcome.problems_both]
    exact (key_reports f document).append (keys_report rest document)
termination_by structural fields => fields

theorem key_reports : ∀ (f : String × Value) (document : Value),
    ((keyEntries .always f).filterMap Entry.misfit?).Sublist (key outcomes f document).problems
  | (name, c), document => by
    cases hn : Combinator.ofName? name with
    | none =>
      rw [keyEntries, List.filterMap_cons_none (Entry.misfit?_key_of_path hn), hn]
      simp only [key, hn]
      exact condition_reports c _
    | some combinator =>
      cases ha : combinator.accepts c with
      | false =>
        rw [key_of_not_accepts outcomes hn ha, misfits_key_of_not_accepts hn ha]
        exact List.Sublist.refl _
      | true =>
        rw [misfits_key_of_accepts hn ha]
        split
        · next hc =>
          subst hc
          simp only [key, hn]
          exact notOne_reports c document
        · exact List.nil_sublist _
termination_by structural f => f

theorem notOne_reports : ∀ c document : Value,
    ((ruleEntries .always c).filterMap Entry.misfit?).Sublist (notOne outcomes c document).problems
  | .object fields, document => by
    rw [notOne, Outcome.problems_not, Outcome.problems_enter]
    exact keys_report fields document
  | .null, _ | .bool _, _ | .number _, _ | .string _, _ | .array _, _ => List.nil_sublist _
termination_by structural c => c
end

end

/-- An entry of the wrong shape that every document has tested is reported for
every document that is not refused for nesting, in the order of the entries and as
often as there are such entries. -/
theorem evaluate_reports_misfits [PatternEngine] (r : Rule) (document : Value)
    (h : (r.evaluate document).tooDeepCount = 0) :
    ((r.entries .always).filterMap Entry.misfit?).Sublist (r.evaluate document).diagnostics := by
  rw [(r.evaluate_follows document).eq_of_tooDeepCount_eq_zero h]
  have hk := keys_report r.conditions document
  rwa [← Outcome.problems_enter] at hk

/-- Every flaw of this rule is reported, although nothing in it holds and no path
leads to a value. -/
theorem evaluate_reports_misfits_absent :
    let c : Value := .object [("$not", .object [("$in", .null), ("$gtt", .null)]), ("$regex", .null)]
    let r : Rule := ⟨[("$and", .null), ("$not", .object [("a", c), ("$or", .array [.null])]), ("b", c)]⟩
    (r.evaluate .null).tooDeepCount = 0 ∧
      List.Sublist [.malformedRule .and, .malformedOperand .isIn, .unknownOperator "$gtt",
        .malformedOperand .regex, .malformedRule .or, .malformedOperand .isIn, .unknownOperator "$gtt",
        .malformedOperand .regex] (r.evaluate .null).diagnostics := by
  intro c r
  have h : (r.evaluate .null).tooDeepCount = 0 := by decide
  exact ⟨h, evaluate_reports_misfits r .null h⟩

end Targeting

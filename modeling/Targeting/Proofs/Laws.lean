import Targeting.Proofs.Lists
/-!
# Laws of checks

A check that follows an answer that is known is just run, one that hands on the
answer before it can be left out, and it does not count how checks that follow one
another are bracketed. `Checks.Lawful` says so, and from it follow the laws of the
ways in which checks are put together. They hold of outcomes, and of the checks
that are run under whatever guard.
-/

namespace Targeting

variable {χ α β : Type} {k : Checks χ}

structure Checks.Lawful (k : Checks χ) : Prop where
  next_answer (p : χ) : k.next p k.answer = p
  answer_next (b : Bool) (f : Bool → χ) : k.next (k.answer b) f = f b
  next_assoc (p : χ) (f g : Bool → χ) :
    k.next (k.next p f) g = k.next p fun b => k.next (f b) g

theorem outcomes_lawful : outcomes.Lawful where
  next_answer o := by simp [outcomes]
  answer_next _ _ := rfl
  next_assoc o f g := by simp [outcomes]

theorem Guard.lawful {σ : Type} (g : Guard σ) : g.checks.Lawful where
  next_answer _ := rfl
  answer_next _ _ := rfl
  next_assoc _ _ _ := rfl

namespace Checks

theorem all_map (k : Checks χ) (test : α → χ) (f : β → α) (bs : List β) :
    k.all test (bs.map f) = k.all (fun b => test (f b)) bs := by
  induction bs with
  | nil => rfl
  | cons b bs ih => rw [List.map_cons, all, ih, all]

theorem any_map (k : Checks χ) (test : α → χ) (f : β → α) (bs : List β) :
    k.any test (bs.map f) = k.any (fun b => test (f b)) bs := by
  induction bs with
  | nil => rfl
  | cons b bs ih => rw [List.map_cons, any, ih, any]

theorem any_congr {s t : α → χ} {as : List α} (h : ∀ a ∈ as, s a = t a) : k.any s as = k.any t as := by
  induction as with
  | nil => rfl
  | cons a as ih =>
    rw [List.forall_mem_cons] at h
    rw [any, any, h.1, ih h.2]

namespace Lawful

theorem ite_answer : (fun a => if a then k.answer true else k.answer false) = k.answer := by
  funext a
  cases a <;> rfl

variable (h : k.Lawful) (p q r : χ) (test : α → χ) (as bs : List α)
include h

/-! ## Known answers -/

theorem not_answer (b : Bool) : k.not (k.answer b) = k.answer (!b) := h.answer_next ..

theorem true_both : k.both (k.answer true) p = p := by
  simp only [Checks.both, h.answer_next, Bool.true_and]
  exact h.next_answer p

theorem both_true : k.both p (k.answer true) = p := by
  simp only [Checks.both, h.answer_next, Bool.and_true]
  exact h.next_answer p

theorem andThen_true : k.andThen p (k.answer true) = p := by
  rw [Checks.andThen, ite_answer, h.next_answer]

theorem orElse_false : k.orElse p (k.answer false) = p := by
  rw [Checks.orElse, ite_answer, h.next_answer]

/-! ## Brackets and negations -/

theorem not_not : k.not (k.not p) = p := by
  simp only [Checks.not, h.next_assoc, h.answer_next, Bool.not_not]
  exact h.next_answer p

theorem both_assoc : k.both (k.both p q) r = k.both p (k.both q r) := by
  simp only [Checks.both, h.next_assoc, h.answer_next, Bool.and_assoc]

theorem andThen_assoc : k.andThen (k.andThen p q) r = k.andThen p (k.andThen q r) := by
  simp only [Checks.andThen, h.next_assoc]
  congr 1
  funext a
  cases a with
  | true => rfl
  | false => exact h.answer_next ..

theorem orElse_assoc : k.orElse (k.orElse p q) r = k.orElse p (k.orElse q r) := by
  simp only [Checks.orElse, h.next_assoc]
  congr 1
  funext a
  cases a with
  | true => exact h.answer_next ..
  | false => rfl

theorem not_orElse : k.not (k.orElse p q) = k.andThen (k.not p) (k.not q) := by
  -- both run `p` first, so its answer tells what is left of them
  simp only [Checks.not, Checks.orElse, Checks.andThen, h.next_assoc, h.answer_next]
  congr 1
  funext a
  cases a with
  | true => exact h.answer_next ..
  | false => rfl

/-! ## Lists of tests -/

theorem not_any : k.not (k.any test as) = k.all (fun a => k.not (test a)) as := by
  induction as with
  | nil => exact h.not_answer false
  | cons a as ih => rw [Checks.any, h.not_orElse, ih, Checks.all]

theorem every_append : k.every test (as ++ bs) = k.both (k.every test as) (k.every test bs) := by
  induction as with
  | nil => exact (h.true_both _).symm
  | cons a as ih => rw [List.cons_append, Checks.every, ih, Checks.every, h.both_assoc]

theorem all_append : k.all test (as ++ bs) = k.andThen (k.all test as) (k.all test bs) := by
  induction as with
  | nil => simp only [List.nil_append, Checks.all, Checks.andThen, h.answer_next, if_true]
  | cons a as ih => rw [List.cons_append, Checks.all, ih, Checks.all, h.andThen_assoc]

theorem any_append : k.any test (as ++ bs) = k.orElse (k.any test as) (k.any test bs) := by
  induction as with
  | nil => simp only [List.nil_append, Checks.any, Checks.orElse, h.answer_next, if_false, Bool.false_eq_true]
  | cons a as ih => rw [List.cons_append, Checks.any, ih, Checks.any, h.orElse_assoc]

/-! ## Objects with one entry -/

variable [PatternEngine]

theorem rule_single (f : String × Value) (document : Value) :
    Evaluation.rule k [f] document = k.enter (Evaluation.key k f document) := by
  simp only [Evaluation.rule, Evaluation.keys, h.both_true]

theorem condition_single {name : String} (hn : isOperatorKey name) (operand : Value)
    (v : Option Value) : Evaluation.condition k (.object [(name, operand)]) v =
      k.enter (Evaluation.operator k (name, operand) v) := by
  have ho : isOperatorObject [(name, operand)] = true := by simp [isOperatorObject, hn]
  simp only [Evaluation.condition, ho, if_true, Evaluation.operators, h.both_true]

end Lawful

end Checks

end Targeting

import Targeting.Proofs.Outcome
/-!
# Lists of tests

The parts of an evaluation that go through a list, as tests of its members: all
are run (`Checks.every`), or they are run until one does not hold (`Checks.all`)
or until one holds (`Checks.any`).
-/

namespace Targeting

namespace Checks

variable {χ α : Type} (k : Checks χ)

/-- Whether all tests hold; all are run. -/
def every (test : α → χ) : List α → χ
  | [] => k.answer true
  | a :: as => k.both (test a) (every test as)

/-- Whether all tests hold; those after one that does not are not run. -/
def all (test : α → χ) : List α → χ
  | [] => k.answer true
  | a :: as => k.andThen (test a) (all test as)

end Checks

/-! ## Evaluations -/

namespace Evaluation

variable {χ : Type} [PatternEngine] (k : Checks χ)

theorem operators_eq_every (fields : Fields) (v : Option Value) :
    operators k fields v = k.every (operator k · v) fields := by
  induction fields with
  | nil => rfl
  | cons f rest ih => rw [operators, ih, Checks.every]

theorem keys_eq_every (fields : Fields) (document : Value) :
    keys k fields document = k.every (key k · document) fields := by
  induction fields with
  | nil => rfl
  | cons f rest ih => rw [keys, ih, Checks.every]

theorem hasItems_eq_all (conditions items : List Value) :
    hasItems k conditions items =
      k.all (fun c => k.any (fun item => condition k c (some item)) items) conditions := by
  induction conditions with
  | nil => rfl
  | cons c cs ih => rw [hasItems, ih, Checks.all]

theorem everyRule_eq_all (rules : List Value) (document : Value) :
    everyRule k rules document = k.all (listedRule k · document) rules := by
  induction rules with
  | nil => rfl
  | cons r rs ih => rw [everyRule, ih, Checks.all]

theorem someRule_eq_any (rules : List Value) (document : Value) :
    someRule k rules document = k.any (listedRule k · document) rules := by
  induction rules with
  | nil => rfl
  | cons r rs ih => rw [someRule, ih, Checks.any]

end Evaluation

/-! ## Answers -/

namespace Outcome

variable {α : Type} (test : α → Outcome) (as : List α)

@[simp]
theorem holds_every : (outcomes.every test as).holds = as.all fun a => (test a).holds := by
  induction as with
  | nil => rfl
  | cons a as ih => rw [Checks.every, holds_both, ih, List.all_cons]

@[simp]
theorem holds_all : (outcomes.all test as).holds = as.all fun a => (test a).holds := by
  induction as with
  | nil => rfl
  | cons a as ih => rw [Checks.all, holds_andThen, ih, List.all_cons]

@[simp]
theorem holds_any : (outcomes.any test as).holds = as.any fun a => (test a).holds := by
  induction as with
  | nil => rfl
  | cons a as ih => rw [Checks.any, holds_orElse, ih, List.any_cons]

end Outcome

end Targeting

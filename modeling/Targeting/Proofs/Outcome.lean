import Targeting.Evaluation
/-!
# Outcomes

What a test comes to if nothing limits its nesting: its answer, and the levels
it opens and the problems it meets, in order. A level is counted from where the
test starts, so an outcome does not depend on where in a rule the test stands,
and the outcome of a test is put together from those of its parts.
-/

namespace Targeting

inductive Event where
  | opened (level : Nat)
  | problem (d : Diagnostic)
deriving DecidableEq, Repr

namespace Event

def level : Event → Nat
  | opened n => n
  | problem _ => 0

def problem? : Event → Option Diagnostic
  | opened _ => none
  | problem d => some d

/-- The event, if the test starts with `n` levels open. -/
def raise (n : Nat) : Event → Event
  | opened m => opened (m + n)
  | problem d => problem d

@[simp]
theorem level_opened (n : Nat) : (opened n).level = n := rfl

@[simp]
theorem level_problem (d : Diagnostic) : (problem d).level = 0 := rfl

@[simp]
theorem problem?_raise (n : Nat) (e : Event) : (e.raise n).problem? = e.problem? := by
  cases e <;> rfl

@[simp]
theorem raise_opened (m n : Nat) : (opened m).raise n = opened (m + n) := rfl

theorem raise_zero : raise 0 = id := by
  funext e
  cases e <;> rfl

@[simp]
theorem raise_raise (m n : Nat) (e : Event) : (e.raise m).raise n = e.raise (n + m) := by
  cases e with
  | opened l => simp [Nat.add_comm, Nat.add_left_comm]
  | problem d => rfl

/-! ## Lists of events -/

/-- The most levels that are open at once. -/
def deepest : List Event → Nat
  | [] => 0
  | e :: es => max e.level (deepest es)

def problems (es : List Event) : List Diagnostic := es.filterMap problem?

/-- The events before a level above `n` is opened. -/
def within (n : Nat) (es : List Event) : List Event := es.takeWhile (·.level ≤ n)

/-- The opening of a level and what happens in it. -/
def inLevel (es : List Event) : List Event := opened 1 :: es.map (raise 1)

@[simp]
theorem deepest_append (es fs : List Event) : deepest (es ++ fs) = max (deepest es) (deepest fs) := by
  induction es with
  | nil => simp [deepest]
  | cons e es ih => simp only [List.cons_append, deepest, ih, Nat.max_assoc]

@[simp]
theorem problems_append (es fs : List Event) : problems (es ++ fs) = problems es ++ problems fs :=
  List.filterMap_append ..

@[simp]
theorem problems_raise (n : Nat) (es : List Event) : problems (es.map (raise n)) = problems es := by
  have h : problem? ∘ raise n = problem? := by
    funext e
    exact problem?_raise n e
  rw [problems, List.filterMap_map, h, problems]

@[simp]
theorem deepest_inLevel (es : List Event) : deepest (inLevel es) = deepest es + 1 := by
  simp only [inLevel, deepest, level_opened]
  induction es with
  | nil => rfl
  | cons e es ih => cases e <;> simp [deepest, raise] <;> omega

@[simp]
theorem problems_inLevel (es : List Event) : problems (inLevel es) = problems es :=
  problems_raise 1 es

theorem deepest_le_iff {n : Nat} {es : List Event} : deepest es ≤ n ↔ ∀ e ∈ es, e.level ≤ n := by
  induction es with
  | nil => simp [deepest]
  | cons e es ih => simp only [deepest, Nat.max_le, ih, List.forall_mem_cons]

theorem within_append_of_le {n : Nat} {es : List Event} (fs : List Event) (h : deepest es ≤ n) :
    within n (es ++ fs) = es ++ within n fs :=
  List.takeWhile_append_of_pos (by simpa using deepest_le_iff.1 h)

/-- What happens after a level above `n` is opened does not count. -/
theorem within_append_of_lt {n : Nat} {es : List Event} (fs : List Event) (h : n < deepest es) :
    within n (es ++ fs) = within n es := by
  induction es with
  | nil => simp [deepest] at h
  | cons e es ih =>
    by_cases he : e.level ≤ n
    · have hes : n < deepest es := by simp only [deepest] at h; omega
      simp only [within, List.cons_append, List.takeWhile_cons, he, decide_true, if_true]
      exact congrArg (e :: ·) (ih hes)
    · simp [within, he]

theorem within_inLevel (n : Nat) (es : List Event) :
    within (n + 1) (inLevel es) = inLevel (within n es) := by
  have h (e : Event) : (e.raise 1).level ≤ n + 1 ↔ e.level ≤ n := by
    cases e <;> simp [raise]
  simp [within, inLevel, List.takeWhile_map, Function.comp_def, h]

end Event

/-! ## Outcomes of checks -/

structure Outcome where
  holds : Bool
  events : List Event
deriving DecidableEq, Repr

namespace Outcome

def deepest (o : Outcome) : Nat := Event.deepest o.events

def problems (o : Outcome) : List Diagnostic := Event.problems o.events

/-- The problems met before a level above `n` is opened. -/
def problemsWithin (n : Nat) (o : Outcome) : List Diagnostic := Event.problems (Event.within n o.events)

/-- The problems met before level `n` is first opened. -/
def problemsBefore (n : Nat) (o : Outcome) : List Diagnostic :=
  Event.problems (o.events.takeWhile (· ≠ .opened n))

theorem mem_problems_of_mem_problemsWithin {n : Nat} (o : Outcome) {d : Diagnostic}
    (h : d ∈ o.problemsWithin n) : d ∈ o.problems :=
  ((List.takeWhile_sublist _).filterMap _).subset h

end Outcome

/-- The checks that are known by their outcomes. -/
def outcomes : Checks Outcome where
  answer b := ⟨b, []⟩
  next o f := ⟨(f o.holds).holds, o.events ++ (f o.holds).events⟩
  enter o := ⟨o.holds, Event.inLevel o.events⟩
  fail d := ⟨false, [.problem d]⟩

namespace Outcome

variable (o : Outcome) (f : Bool → Outcome)

@[simp]
theorem holds_answer (b : Bool) : (outcomes.answer b).holds = b := rfl

@[simp]
theorem holds_next : (outcomes.next o f).holds = (f o.holds).holds := rfl

@[simp]
theorem holds_enter : (outcomes.enter o).holds = o.holds := rfl

@[simp]
theorem holds_fail (d : Diagnostic) : (outcomes.fail d).holds = false := rfl

@[simp]
theorem deepest_answer (b : Bool) : (outcomes.answer b).deepest = 0 := rfl

@[simp]
theorem deepest_next : (outcomes.next o f).deepest = max o.deepest (f o.holds).deepest :=
  Event.deepest_append ..

@[simp]
theorem deepest_enter : (outcomes.enter o).deepest = o.deepest + 1 := Event.deepest_inLevel _

@[simp]
theorem deepest_fail (d : Diagnostic) : (outcomes.fail d).deepest = 0 := rfl

@[simp]
theorem problems_answer (b : Bool) : (outcomes.answer b).problems = [] := rfl

@[simp]
theorem problems_next : (outcomes.next o f).problems = o.problems ++ (f o.holds).problems :=
  Event.problems_append ..

@[simp]
theorem problems_enter : (outcomes.enter o).problems = o.problems := Event.problems_inLevel _

@[simp]
theorem problems_fail (d : Diagnostic) : (outcomes.fail d).problems = [d] := rfl

variable (p : Outcome)

@[simp]
theorem holds_not : (outcomes.not o).holds = !o.holds := rfl

@[simp]
theorem deepest_not : (outcomes.not o).deepest = o.deepest := by simp [Checks.not]

@[simp]
theorem problems_not : (outcomes.not o).problems = o.problems := by simp [Checks.not]

@[simp]
theorem holds_both : (outcomes.both o p).holds = (o.holds && p.holds) := rfl

@[simp]
theorem deepest_both : (outcomes.both o p).deepest = max o.deepest p.deepest := by
  simp [Checks.both]

@[simp]
theorem problems_both : (outcomes.both o p).problems = o.problems ++ p.problems := by
  simp [Checks.both]

@[simp]
theorem holds_andThen : (outcomes.andThen o p).holds = (o.holds && p.holds) := by
  cases h : o.holds <;> simp [Checks.andThen, h]

@[simp]
theorem holds_orElse : (outcomes.orElse o p).holds = (o.holds || p.holds) := by
  cases h : o.holds <;> simp [Checks.orElse, h]

variable {o} {n : Nat}

theorem problemsWithin_next_of_lt (h : n < o.deepest) :
    (outcomes.next o f).problemsWithin n = o.problemsWithin n :=
  congrArg Event.problems (Event.within_append_of_lt _ h)

theorem problemsWithin_next_of_le (h : o.deepest ≤ n) :
    (outcomes.next o f).problemsWithin n = o.problems ++ (f o.holds).problemsWithin n := by
  simp only [problemsWithin, outcomes, Event.within_append_of_le _ h, Event.problems_append]
  rfl

theorem problemsWithin_enter_zero : (outcomes.enter o).problemsWithin 0 = [] := rfl

theorem problemsWithin_enter_succ : (outcomes.enter o).problemsWithin (n + 1) = o.problemsWithin n := by
  simp only [problemsWithin, outcomes, Event.within_inLevel, Event.problems_inLevel]

end Outcome

end Targeting

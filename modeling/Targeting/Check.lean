import Targeting.Diagnostic
/-!
# Checks

A check answers yes or no. `Checks` is what an evaluation needs to make checks
of some kind: an answer that is known, a check that goes on once another has
answered, a level that is opened, and a problem, which does not hold. From
these, checks are put together in two ways: `both` runs both parts whatever the
first answers, so that each can report its problems, and `andThen` and `orElse`
run the second part only if the first leaves the answer open.

The checks that are run keep books in a state (`Check`), and a `Guard` says how.
-/

namespace Targeting

structure Checks (χ : Type) where
  answer : Bool → χ
  /-- Runs a check, and then the one that its answer leads to. -/
  next : χ → (Bool → χ) → χ
  /-- Runs a check one level deeper. -/
  enter : χ → χ
  /-- Reports a problem and does not hold. -/
  fail : Diagnostic → χ

namespace Checks

variable {χ α : Type} (k : Checks χ)

def not (p : χ) : χ := k.next p fun a => k.answer (!a)

/-- Whether both hold; both are run. -/
@[macro_inline]
def both (p q : χ) : χ := k.next p fun a => k.next q fun b => k.answer (a && b)

/-- Whether both hold; the second is run only if the first does. -/
@[macro_inline]
def andThen (p q : χ) : χ := k.next p fun a => if a then q else k.answer false

/-- Whether one of them holds; the second is run only if the first does not. -/
@[macro_inline]
def orElse (p q : χ) : χ := k.next p fun a => if a then k.answer true else q

/-- Whether the test of some item holds; items after it are not tested. -/
def any (test : α → χ) : List α → χ
  | [] => k.answer false
  | a :: as => k.orElse (test a) (any test as)

end Checks

/-! ## Checks that are run -/

/-- A run from one state to the next with an answer. -/
def Check (σ : Type) := σ → Bool × σ

/-- How checks keep their books: what it takes to open a level, and where a
problem is recorded. -/
structure Guard (σ : Type) where
  enter : Check σ → Check σ
  record : Diagnostic → σ → σ

/-- The checks that are run under a guard. -/
def Guard.checks {σ : Type} (g : Guard σ) : Checks (Check σ) where
  answer b s := (b, s)
  next p f s :=
    let r := p s
    f r.1 r.2
  enter := g.enter
  fail d s := (false, g.record d s)

end Targeting

import Mathlib.Data.List.Chain
import Mathlib.Logic.Relation
import Targeting.Pattern.Matcher
import Targeting.Proofs.Nesting
/-!
# The course of a test

A limited test goes from state to state: it opens a level, closes it again, reports a problem,
or is refused one level more and so is aborted (`Progress.Step`). `watched` keeps every state
that a test passes through, and is the limited guard otherwise (`limited_watched`). What one
step leads to, any number of steps lead to, and every test comes back to the level it was
called at (`test_keeps_level`).
-/

namespace Targeting

variable {limit floor : ℕ}

/-! ## Steps -/

namespace Progress

variable {s t u : Progress}

def opened (s : Progress) : Progress := { s with depth := s.depth + 1 }

def closed (s : Progress) : Progress := { s with depth := s.depth - 1 }

def reported (s : Progress) (d : Diagnostic) : Progress :=
  { s with diagnostics := s.diagnostics ++ [d] }

/-- The state of a test that was to open one level more than `limit`. -/
def refused (limit : ℕ) (s : Progress) : Progress :=
  { s.reported (.nestingTooDeep limit) with aborted := true }

/-- The steps that a test can take. Only problems of entries are reported by themselves. -/
inductive Step (limit : ℕ) (s : Progress) : Progress → Prop
  | opens : s.aborted = false → s.depth < limit → Step limit s s.opened
  | closes : 0 < s.depth → Step limit s s.closed
  | reports {d : Diagnostic} : d.isOfEntry → Step limit s (s.reported d)
  | refuses : s.aborted = false → limit ≤ s.depth → Step limit s (s.refused limit)

/-- How a state of a test and a later one are related: no report is lost, an aborted test stays
aborted, and too deep nesting is reported just if the test is aborted in between, and then
once. -/
structure LeadsTo (limit : ℕ) (s t : Progress) : Prop where
  aborted : s.aborted → t.aborted
  diagnostics : ∃ later, t.diagnostics = s.diagnostics ++ later ∧
    later.filter Diagnostic.isNestingTooDeep =
      if !s.aborted && t.aborted then [.nestingTooDeep limit] else []

theorem LeadsTo.trans (h : LeadsTo limit s t) (h' : LeadsTo limit t u) : LeadsTo limit s u := by
  obtain ⟨later, hlater, hfilter⟩ := h.diagnostics
  obtain ⟨later', hlater', hfilter'⟩ := h'.diagnostics
  refine ⟨fun ha => h'.aborted (h.aborted ha), later ++ later', ?_, ?_⟩
  · rw [hlater', hlater, List.append_assoc]
  · have hst := h.aborted
    have htu := h'.aborted
    rw [List.filter_append, hfilter, hfilter']
    -- of three states in a row, the test is aborted between the first two or between the last two
    cases hs : s.aborted <;> cases ht : t.aborted <;> cases hu : u.aborted <;> simp_all

instance : Trans (LeadsTo limit) (LeadsTo limit) (LeadsTo limit) := ⟨LeadsTo.trans⟩

theorem Step.leadsTo (h : Step limit s t) : LeadsTo limit s t := by
  cases h with
  | opens | closes => exact ⟨id, [], by simp [opened, closed]⟩
  | @reports d hd =>
    have hn := Diagnostic.isNestingTooDeep_of_isOfEntry hd
    exact ⟨id, [d], by simp [reported, hn]⟩
  | refuses hs _ =>
    refine ⟨fun _ => rfl, [.nestingTooDeep limit], rfl, ?_⟩
    simp [refused, hs, Diagnostic.isNestingTooDeep]

end Progress

/-! ## Courses -/

/-- A test under way: its state, and the states before it, from the first on. -/
structure Course where
  state : Progress
  before : List Progress := []

namespace Course

variable {c c' : Course}

/-- All states that a test has passed through, the present one last. -/
def states (c : Course) : List Progress := c.before ++ [c.state]

def moveTo (c : Course) (s : Progress) : Course := ⟨s, c.states⟩

/-- Whether a test moves on by one step to a state with at least `floor` levels open and at most
`limit`. -/
structure Moves (limit floor : ℕ) (c c' : Course) : Prop where
  before : c'.before = c.states
  step : Progress.Step limit c.state c'.state
  floor_le : floor ≤ c'.state.depth
  le_limit : c'.state.depth ≤ limit

/-- Whether a test goes on by any number of such steps. -/
def GoesOn (limit floor : ℕ) : Course → Course → Prop := Relation.ReflTransGen (Moves limit floor)

theorem GoesOn.mono {floor' : ℕ} (h : GoesOn limit floor c c') (hf : floor' ≤ floor) :
    GoesOn limit floor' c c' :=
  Relation.ReflTransGen.mono (r := Moves limit floor) (p := Moves limit floor')
    (fun _ _ hm => ⟨hm.before, hm.step, hf.trans hm.floor_le, hm.le_limit⟩) _ _ h

theorem goesOn_moveTo {s : Progress} (hs : Progress.Step limit c.state s) (hf : floor ≤ s.depth)
    (hl : s.depth ≤ limit) : GoesOn limit floor c (c.moveTo s) :=
  .single ⟨rfl, hs, hf, hl⟩

theorem GoesOn.isChain (h : GoesOn limit floor c c') (hc : c.states.IsChain (Progress.Step limit)) :
    c'.states.IsChain (Progress.Step limit) := by
  induction h with
  | refl => exact hc
  | tail _ hm ih =>
    rw [states, hm.before, states, List.append_assoc]
    exact List.isChain_append_cons_cons.2 ⟨ih, hm.step, .singleton _⟩

theorem GoesOn.depth (h : GoesOn limit floor c c')
    (hc : ∀ s ∈ c.states, floor ≤ s.depth ∧ s.depth ≤ limit) :
    ∀ s ∈ c'.states, floor ≤ s.depth ∧ s.depth ≤ limit := by
  induction h with
  | refl => exact hc
  | tail _ hm ih =>
    rw [states, hm.before, List.forall_mem_append, List.forall_mem_singleton]
    exact ⟨ih, hm.floor_le, hm.le_limit⟩

theorem GoesOn.head? (h : GoesOn limit floor c c') : c'.states.head? = c.states.head? := by
  induction h with
  | refl => rfl
  | tail _ hm ih =>
    rw [← ih, states, hm.before, List.head?_append, states]
    simp

end Course

/-! ## Watched tests -/

/-- Opens levels as the limited guard does, and keeps the states that a test passes through. -/
def watched (limit : ℕ) : Guard Course where
  enter p c :=
    if c.state.aborted then (false, c)
    else if limit ≤ c.state.depth then (false, c.moveTo (c.state.refused limit))
    else
      let r := p (c.moveTo c.state.opened)
      (r.1, r.2.moveTo r.2.state.closed)
  record d c := c.moveTo (c.state.reported d)

/-- Whether a check of courses is one of states, if what came before the present state is
forgotten. -/
def Watches (p : Check Progress) (q : Check Course) : Prop :=
  ∀ c, p c.state = ((q c).1, (q c).2.state)

theorem limited_watched (limit : ℕ) :
    (limitedTo limit).checks.Related (watched limit).checks Watches where
  answer b c := rfl
  next {p q f g} h hf c := by
    simp only [Guard.checks, h c]
    exact hf _ _
  enter {p q} h c := by
    simp only [Guard.checks, limitedTo, watched]
    split
    · rfl
    split
    · rfl
    · have hp := h (c.moveTo c.state.opened)
      simp only [Course.moveTo, Progress.opened] at hp
      simp only [hp, Course.moveTo, Progress.opened, Progress.closed]
  fail _ c := rfl

/-- Whether a check that is called with at most `limit` levels open goes on by steps, leaves
these levels open, and comes back to them. -/
def Orderly (limit : ℕ) (q : Check Course) : Prop :=
  ∀ c : Course, c.state.depth ≤ limit →
    c.GoesOn limit c.state.depth (q c).2 ∧ (q c).2.state.depth = c.state.depth

theorem watched_orderly (limit : ℕ) :
    (watched limit).checks.Related (watched limit).checks fun q _ => Orderly limit q where
  answer b c _ := ⟨.refl, rfl⟩
  next {p _ f _} h hf c hc := by
    obtain ⟨hgoes, hdepth⟩ := h c hc
    obtain ⟨hgoes', hdepth'⟩ := hf (p c).1 (p c).2 (hdepth.le.trans hc)
    rw [hdepth] at hgoes' hdepth'
    exact ⟨hgoes.trans hgoes', hdepth'⟩
  enter {p _} h c hc := by
    simp only [Guard.checks, watched]
    split
    · exact ⟨.refl, rfl⟩
    next ha =>
    rw [Bool.not_eq_true] at ha
    split
    · next hfull => exact ⟨Course.goesOn_moveTo (.refuses ha hfull) le_rfl hc, rfl⟩
    next hfull =>
    rw [not_le] at hfull
    have hopen : c.GoesOn limit c.state.depth (c.moveTo c.state.opened) :=
      Course.goesOn_moveTo (.opens ha hfull) (Nat.le_succ _) hfull
    obtain ⟨hgoes, hdepth⟩ := h (c.moveTo c.state.opened) hfull
    have hclosed : (p (c.moveTo c.state.opened)).2.state.closed.depth = c.state.depth := by
      rw [Progress.closed, hdepth]
      rfl
    -- the check inside stays above the new level, and so above those that were open before
    have hinside : c.GoesOn limit c.state.depth (p (c.moveTo c.state.opened)).2 :=
      hopen.trans (hgoes.mono (Nat.le_succ _))
    refine ⟨hinside.trans (Course.goesOn_moveTo ?_ ?_ ?_), hclosed⟩
    · exact .closes (hdepth ▸ Nat.succ_pos _)
    · exact hclosed.ge
    · exact hclosed.le.trans hc
  fail hd c hc := ⟨Course.goesOn_moveTo (.reports hd) le_rfl hc, rfl⟩

/-! ## Tests -/

/-- The tests that an evaluation is made of: of a document by a rule or by one of its keys, and
of a value that may be absent by a condition or by one of its operators. -/
inductive Test where
  | rule (fields : Fields) (document : Value)
  | key (entry : String × Value) (document : Value)
  | condition (c : Value) (v : Option Value)
  | operator (entry : String × Value) (v : Option Value)

namespace Test

/-- Whether a test is all inside of a level that it opens. -/
def opensLevel : Test → Bool
  | rule _ _ => true
  | condition (.object fields) _ => isOperatorObject fields
  | _ => false

variable [PatternEngine] {χ ω : Type}

def check (k : Checks χ) : Test → χ
  | rule fields document => Evaluation.rule k fields document
  | key entry document => Evaluation.key k entry document
  | condition c v => Evaluation.condition k c v
  | operator entry v => Evaluation.operator k entry v

theorem related {k : Checks χ} {l : Checks ω} {R : χ → ω → Prop} (h : k.Related l R) (t : Test) :
    R (t.check k) (t.check l) := by
  cases t with
  | rule fields document => exact h.rule fields document
  | key entry document => exact h.key entry document
  | condition c v => exact h.condition c v
  | operator entry v => exact h.operator entry v

theorem check_of_opensLevel (k : Checks χ) {t : Test} (h : t.opensLevel) :
    ∃ p, t.check k = k.enter p := by
  cases t with
  | rule fields document => exact ⟨_, rfl⟩
  | condition c v =>
    cases c with
    | object fields =>
      refine ⟨Evaluation.operators k fields v, ?_⟩
      rw [check, Evaluation.condition]
      exact if_pos h
    | _ => cases h
  | _ => cases h

/-- The states that a limited test passes through, from the one it is called in to the one it
leaves behind. -/
def course (t : Test) (s : Progress) : List Progress :=
  (t.check (watched levelLimit).checks ⟨s, []⟩).2.states

theorem course_of_aborted {t : Test} (ht : t.opensLevel) {s : Progress} (hs : s.aborted) :
    t.check (limitedTo levelLimit).checks s = (false, s) ∧ t.course s = [s] := by
  obtain ⟨p, hp⟩ := check_of_opensLevel (limitedTo levelLimit).checks ht
  obtain ⟨q, hq⟩ := check_of_opensLevel (watched levelLimit).checks ht
  rw [course, hp, hq]
  simp [Guard.checks, limitedTo, watched, hs, Course.states]

end Test

/-- A test that is called with no more than `levelLimit` levels open goes from the state it is
called in to the one it leaves by steps, and leaves as many levels open as it found; in between,
no level is open that the limit forbids, and none of those that were open is closed. Of any two
states that it passes through, the later one is aborted if the earlier one is, and too deep
nesting is reported between them just if the test is aborted there. Once aborted, a test that
would open a level first of all does not hold and does nothing. -/
theorem test_keeps_level [PatternEngine] (t : Test) (s : Progress) (hs : s.depth ≤ levelLimit) :
    let run := t.check (limitedTo levelLimit).checks s
    ((t.course s).head? = some s ∧ (t.course s).getLast? = some run.2 ∧
      (t.course s).IsChain (Progress.Step levelLimit)) ∧
    run.2.depth = s.depth ∧
    (∀ u ∈ t.course s, s.depth ≤ u.depth ∧ u.depth ≤ levelLimit) ∧
    (t.course s).Pairwise (Progress.LeadsTo levelLimit) ∧
    (t.opensLevel → s.aborted → run = (false, s) ∧ t.course s = [s]) := by
  intro run
  have hrun : run = _ := t.related (limited_watched levelLimit) ⟨s, []⟩
  obtain ⟨hgoes, hdepth⟩ := t.related (watched_orderly levelLimit) ⟨s, []⟩ hs
  have hchain : (t.course s).IsChain (Progress.Step levelLimit) := hgoes.isChain (.singleton s)
  have hwithin : ∀ u ∈ t.course s, s.depth ≤ u.depth ∧ u.depth ≤ levelLimit :=
    hgoes.depth (List.forall_mem_singleton.2 ⟨le_rfl, hs⟩)
  refine ⟨⟨hgoes.head?, ?_, hchain⟩, ?_, hwithin, ?_, fun ht => Test.course_of_aborted ht⟩
  · rw [hrun, Test.course, Course.states, List.getLast?_concat]
  · rw [hrun]
    exact hdepth
  · exact (hchain.imp fun _ _ => Progress.Step.leadsTo).pairwise

/-- The negation inside of a negation is one level too deep, and the operator beside it is tested
all the same. Called in the state that is left, the test does nothing. -/
theorem test_keeps_level_refused :
    let t : Test := .condition (.object [("$not", .object [("$not", .null)]), ("$gtt", .null)]) none
    let s : Progress := ⟨127, false, [.malformedRule .and]⟩
    let left : Progress :=
      ⟨127, true, [.malformedRule .and, .nestingTooDeep 128, .unknownOperator "$gtt"]⟩
    (s.depth ≤ levelLimit ∧ (t.check (limitedTo levelLimit).checks s).2 = left ∧
      (t.course s).map (·.depth) = [127, 128, 128, 128, 127] ∧
      left.depth = s.depth ∧ (∀ u ∈ t.course s, 127 ≤ u.depth ∧ u.depth ≤ 128) ∧
      (t.course s).Pairwise (Progress.LeadsTo levelLimit)) ∧
    left.depth ≤ levelLimit ∧ t.opensLevel ∧ left.aborted ∧
      t.check (limitedTo levelLimit).checks left = (false, left) ∧ t.course left = [left] := by
  intro t s left
  have hrun : (t.check (limitedTo levelLimit).checks s).2 = left := by decide
  obtain ⟨-, hdepth, hwithin, hpairs, -⟩ := test_keeps_level t s (by decide)
  obtain ⟨-, -, -, -, hstill⟩ := test_keeps_level t left (by decide)
  rw [hrun] at hdepth
  exact ⟨⟨by decide, hrun, by decide, hdepth, hwithin, hpairs⟩, by decide, by decide, rfl,
    hstill (by decide) rfl⟩

end Targeting

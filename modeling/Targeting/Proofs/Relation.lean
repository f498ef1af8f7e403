import Mathlib.Data.List.Forall2
import Targeting.Evaluation
/-!
# Related checks

An evaluation puts checks together in the same way whatever checks they are. So
if two kinds of checks are related part by part, every evaluation by one kind is
related to the same evaluation by the other.
-/

namespace Targeting

/-- Whether a problem lies with an entry of a rule or condition. Other problems
are not met by making checks. -/
def Diagnostic.isOfEntry : Diagnostic → Bool
  | .unknownOperator _ | .invalidPattern _ _ | .malformedRule _ | .malformedOperand _ => true
  | .invalidCondition _ | .nestingTooDeep _ => false

variable {χ ω α β : Type} {k : Checks χ} {l : Checks ω} {R : χ → ω → Prop}

/-- `R` relates the checks of two kinds if it relates them part by part. -/
structure Checks.Related (k : Checks χ) (l : Checks ω) (R : χ → ω → Prop) : Prop where
  answer (b : Bool) : R (k.answer b) (l.answer b)
  next {p : χ} {q : ω} {f : Bool → χ} {g : Bool → ω} :
    R p q → (∀ b, R (f b) (g b)) → R (k.next p f) (l.next q g)
  enter {p : χ} {q : ω} : R p q → R (k.enter p) (l.enter q)
  fail {d : Diagnostic} : d.isOfEntry → R (k.fail d) (l.fail d)

namespace Checks.Related

variable {p p' : χ} {q q' : ω}

theorem not (h : k.Related l R) (hp : R p q) : R (k.not p) (l.not q) :=
  h.next hp fun b => h.answer !b

theorem both (h : k.Related l R) (hp : R p q) (hp' : R p' q') : R (k.both p p') (l.both q q') :=
  h.next hp fun a => h.next hp' fun b => h.answer (a && b)

theorem andThen (h : k.Related l R) (hp : R p q) (hp' : R p' q') :
    R (k.andThen p p') (l.andThen q q') := by
  apply h.next hp
  intro a
  cases a with
  | true => exact hp'
  | false => exact h.answer false

theorem orElse (h : k.Related l R) (hp : R p q) (hp' : R p' q') :
    R (k.orElse p p') (l.orElse q q') := by
  apply h.next hp
  intro a
  cases a with
  | true => exact h.answer true
  | false => exact hp'

theorem any (h : k.Related l R) {s : α → χ} {t : β → ω} {as : List α} {bs : List β}
    (hst : List.Forall₂ (fun a b => R (s a) (t b)) as bs) : R (k.any s as) (l.any t bs) := by
  induction hst with
  | nil => exact h.answer false
  | cons hab _ ih => exact h.orElse hab ih

/-! ## Evaluations -/

theorem onItems (h : k.Related l R) (v : Option Value) {s : List Value → χ} {t : List Value → ω}
    (hst : ∀ items, R (s items) (t items)) :
    R (Evaluation.onItems k v s) (Evaluation.onItems l v t) := by
  unfold Evaluation.onItems
  split
  · exact hst _
  · exact h.answer false

variable [PatternEngine]

theorem searchPattern (h : k.Related l R) (v : Option Value) (operand : Value) :
    R (Evaluation.searchPattern k v operand) (Evaluation.searchPattern l v operand) := by
  cases operand with
  | string pattern =>
    simp only [Evaluation.searchPattern]
    split
    · exact h.answer false
    · split
      · exact h.answer _
      · exact h.fail rfl
  | _ => exact h.fail rfl

theorem simple (h : k.Related l R) (op : Operator) (v : Option Value) (operand : Value) :
    R (Evaluation.simple k op v operand) (Evaluation.simple l op v operand) := by
  cases op with
  | regex => exact h.searchPattern v operand
  | isIn | notIn =>
    cases operand with
    | array candidates => exact h.answer _
    | _ => exact h.fail rfl
  | _ => exact h.answer _

mutual
theorem condition (h : k.Related l R) :
    ∀ (c : Value) (v : Option Value), R (Evaluation.condition k c v) (Evaluation.condition l c v)
  | .object fields, v => by
    simp only [Evaluation.condition]
    split
    · exact h.enter (operators h fields v)
    · exact h.answer _
  | .null, v | .bool _, v | .number _, v | .string _, v | .array _, v => h.answer _

theorem operators (h : k.Related l R) :
    ∀ (fields : Fields) (v : Option Value),
      R (Evaluation.operators k fields v) (Evaluation.operators l fields v)
  | [], _ => h.answer true
  | f :: rest, v => h.both (operator h f v) (operators h rest v)

theorem operator (h : k.Related l R) :
    ∀ (f : String × Value) (v : Option Value),
      R (Evaluation.operator k f v) (Evaluation.operator l f v)
  | (name, operand), v => by
    simp only [Evaluation.operator]
    cases Operator.ofName? name with
    | none => exact h.fail rfl
    | some op =>
      cases op with
      | not => exact h.not (condition h operand v)
      | size => exact h.onItems v fun items => condition h operand (some (.ofNat items.length))
      | elemMatch => exact h.onItems v fun items => h.any (List.forall₂_same.2 fun item _ => element h operand item)
      | all => exact containsAll h operand v
      | _ => exact h.simple _ v operand

theorem element (h : k.Related l R) :
    ∀ (c item : Value), R (Evaluation.element k c item) (Evaluation.element l c item)
  | .object fields, item => by
    simp only [Evaluation.element]
    split
    · exact h.enter (operators h fields (some item))
    · split
      · exact h.enter (keys h fields item)
      · exact h.answer _
  | .null, _ | .bool _, _ | .number _, _ | .string _, _ | .array _, _ => h.answer _

theorem containsAll (h : k.Related l R) :
    ∀ (c : Value) (v : Option Value), R (Evaluation.containsAll k c v) (Evaluation.containsAll l c v)
  | .array conditions, v => h.onItems v (hasItems h conditions)
  | .null, _ | .bool _, _ | .number _, _ | .string _, _ | .object _, _ => h.fail rfl

theorem hasItems (h : k.Related l R) :
    ∀ (cs items : List Value), R (Evaluation.hasItems k cs items) (Evaluation.hasItems l cs items)
  | [], _ => h.answer true
  | c :: cs, items =>
    h.andThen (h.any (List.forall₂_same.2 fun item _ => condition h c (some item)))
      (hasItems h cs items)

theorem keys (h : k.Related l R) :
    ∀ (fields : Fields) (document : Value),
      R (Evaluation.keys k fields document) (Evaluation.keys l fields document)
  | [], _ => h.answer true
  | f :: rest, document => h.both (key h f document) (keys h rest document)

theorem key (h : k.Related l R) :
    ∀ (f : String × Value) (document : Value),
      R (Evaluation.key k f document) (Evaluation.key l f document)
  | (name, c), document => by
    simp only [Evaluation.key]
    cases Combinator.ofName? name with
    | none => exact condition h c _
    | some combinator =>
      cases combinator with
      | and => exact allOf h c document
      | or => exact anyOf h c document
      | nor => exact noneOf h c document
      | not => exact notOne h c document

theorem allOf (h : k.Related l R) :
    ∀ c document : Value, R (Evaluation.allOf k c document) (Evaluation.allOf l c document)
  | .array rules, document => by
    simp only [Evaluation.allOf]
    split
    · exact everyRule h rules document
    · exact h.fail rfl
  | .null, _ | .bool _, _ | .number _, _ | .string _, _ | .object _, _ => h.fail rfl

theorem anyOf (h : k.Related l R) :
    ∀ c document : Value, R (Evaluation.anyOf k c document) (Evaluation.anyOf l c document)
  | .array rules, document => by
    simp only [Evaluation.anyOf]
    split
    · split
      · exact h.answer true
      · exact someRule h rules document
    · exact h.fail rfl
  | .null, _ | .bool _, _ | .number _, _ | .string _, _ | .object _, _ => h.fail rfl

theorem noneOf (h : k.Related l R) :
    ∀ c document : Value, R (Evaluation.noneOf k c document) (Evaluation.noneOf l c document)
  | .array rules, document => by
    simp only [Evaluation.noneOf]
    split
    · exact h.not (someRule h rules document)
    · exact h.fail rfl
  | .null, _ | .bool _, _ | .number _, _ | .string _, _ | .object _, _ => h.fail rfl

theorem notOne (h : k.Related l R) :
    ∀ c document : Value, R (Evaluation.notOne k c document) (Evaluation.notOne l c document)
  | .object fields, document => h.not (h.enter (keys h fields document))
  | .null, _ | .bool _, _ | .number _, _ | .string _, _ | .array _, _ => h.fail rfl

theorem everyRule (h : k.Related l R) :
    ∀ (rules : List Value) (document : Value),
      R (Evaluation.everyRule k rules document) (Evaluation.everyRule l rules document)
  | [], _ => h.answer true
  | r :: rs, document => h.andThen (listedRule h r document) (everyRule h rs document)

theorem someRule (h : k.Related l R) :
    ∀ (rules : List Value) (document : Value),
      R (Evaluation.someRule k rules document) (Evaluation.someRule l rules document)
  | [], _ => h.answer false
  | r :: rs, document => h.orElse (listedRule h r document) (someRule h rs document)

theorem listedRule (h : k.Related l R) :
    ∀ r document : Value, R (Evaluation.listedRule k r document) (Evaluation.listedRule l r document)
  | .object fields, document => h.enter (keys h fields document)
  | .null, _ | .bool _, _ | .number _, _ | .string _, _ | .array _, _ => h.answer false
end

theorem rule (h : k.Related l R) (fields : Fields) (document : Value) :
    R (Evaluation.rule k fields document) (Evaluation.rule l fields document) :=
  h.enter (h.keys fields document)

end Checks.Related

end Targeting

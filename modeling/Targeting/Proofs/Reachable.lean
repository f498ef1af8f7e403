import Targeting.Proofs.PathTexts
/-!
# What paths lead to

Every value in a document is at a place, which steps lead to: a key of an object or an
item of an array at a time. Paths lead to the places with steps that are keys without dots,
at least one, and one path leads to each (`paths_reach`). No path leads into an array or to
anything below a key with a dot.
-/

namespace Targeting

/-! ## Places -/

/-- A step into a value. -/
inductive Step where
  | key (name : String)
  | item (index : Nat)
deriving DecidableEq, Repr

/-- Whether the steps lead from a document to a value in it. -/
inductive Value.HasAt : Value → List Step → Value → Prop
  | here (v : Value) : HasAt v [] v
  | key {fields : Fields} {name : String} {u v : Value} {place : List Step} :
    fields.lookup name = some u → HasAt u place v → HasAt (.object fields) (.key name :: place) v
  | item {items : List Value} {index : Nat} {u v : Value} {place : List Step} :
    items[index]? = some u → HasAt u place v → HasAt (.array items) (.item index :: place) v

/-- Whether a step is to a key that a path can name. -/
def Step.isNamed : Step → Bool
  | .key name => !name.toList.contains '.'
  | .item _ => false

namespace Path

def place (p : Path) : List Step := p.keys.map .key

theorem follow_eq_some_iff {keys : List String} {document v : Value} :
    follow keys document = some v ↔ document.HasAt (keys.map .key) v := by
  induction keys generalizing document with
  | nil =>
    constructor
    · intro h
      cases h
      exact .here _
    · intro h
      cases h
      rfl
  | cons key keys ih =>
    constructor
    · intro h
      cases document with
      | object fields =>
        obtain ⟨u, hu, hv⟩ := Option.bind_eq_some_iff.1 h
        exact .key hu (ih.1 hv)
      | _ => cases h
    · intro h
      cases h with
      | key hu hv => exact Option.bind_eq_some_iff.2 ⟨_, hu, ih.2 hv⟩

theorem resolve_eq_some_iff {p : Path} {document v : Value} :
    p.resolve document = some v ↔ document.HasAt p.place v :=
  follow_eq_some_iff

/-! ## Places that paths lead to -/

theorem place_injective {p q : Path} (h : p.place = q.place) : p = q := by
  have hkeys : p.keys = q.keys := (List.map_inj_right fun _ _ => Step.key.inj).1 h
  exact eq_of_keys hkeys

theorem writable_iff_isNamed (keys : List String) :
    Writable keys ↔ keys.map Step.key ≠ [] ∧ ∀ step ∈ keys.map Step.key, step.isNamed := by
  simp [Writable, Step.isNamed]

theorem exists_keys_of_isNamed {place : List Step} (h : ∀ step ∈ place, step.isNamed) :
    ∃ keys : List String, place = keys.map .key := by
  induction place with
  | nil => exact ⟨[], rfl⟩
  | cons step place ih =>
    rw [List.forall_mem_cons] at h
    obtain ⟨keys, rfl⟩ := ih h.2
    cases step with
    | key name => exact ⟨name :: keys, rfl⟩
    | item index => cases h.1

theorem exists_place_ofText_iff (place : List Step) :
    (∃ s, (ofText s).place = place) ↔ place ≠ [] ∧ ∀ step ∈ place, step.isNamed := by
  constructor
  · rintro ⟨s, rfl⟩
    exact (writable_iff_isNamed _).1 (writable_keys_ofText s)
  · rintro ⟨hne, hnamed⟩
    obtain ⟨keys, rfl⟩ := exists_keys_of_isNamed hnamed
    have hkeys : Writable keys := (writable_iff_isNamed keys).2 ⟨hne, hnamed⟩
    refine ⟨".".intercalate keys, ?_⟩
    rw [place, (keys_ofText_eq_iff hkeys _).2 rfl]

theorem place_ofText_injective {s t : String} (h : (ofText s).place = (ofText t).place) : s = t := by
  exact congrArg text (place_injective h)

/-- Splitting a text at its dots is a bijection between the texts and the lists of keys
without dots, at least one; joining undoes it. A path put together from two leads where the
second leads from where the first does, and nowhere if either leads nowhere. A value is
found at some path just if it is at a place with steps that paths can name, at least one,
and each such place has one path. A value that is only inside of arrays or below keys with
dots is found at none. -/
theorem paths_reach :
    (Set.BijOn (fun s => (ofText s).keys) Set.univ {keys | Writable keys} ∧
      (∀ s, ".".intercalate (ofText s).keys = s) ∧
      ∀ keys, Writable keys → ∀ s, (ofText s).keys = keys ↔ s = ".".intercalate keys) ∧
    (∀ (p q : String) (document : Value), (ofText (p ++ "." ++ q)).resolve document =
      ((ofText p).resolve document).bind (ofText q).resolve) ∧
    (∀ (s : String) (document v : Value),
      (ofText s).resolve document = some v ↔ document.HasAt (ofText s).place v) ∧
    (∀ document v : Value, (∃ s, (ofText s).resolve document = some v) ↔
      ∃ place, (place ≠ [] ∧ ∀ step ∈ place, step.isNamed) ∧ document.HasAt place v) ∧
    (∀ place : List Step, place ≠ [] → (∀ step ∈ place, step.isNamed) →
      ∃! s, (ofText s).place = place) ∧
    ∀ document v : Value,
      (∀ place, document.HasAt place v → ∃ step ∈ place, step.isNamed = false) →
        ∀ s, (ofText s).resolve document ≠ some v := by
  have found_iff (document v : Value) : (∃ s, (ofText s).resolve document = some v) ↔
      ∃ place, (place ≠ [] ∧ ∀ step ∈ place, step.isNamed) ∧ document.HasAt place v := by
    simp only [resolve_eq_some_iff, ← exists_place_ofText_iff]
    constructor
    · rintro ⟨s, hs⟩
      exact ⟨_, ⟨s, rfl⟩, hs⟩
    · rintro ⟨_, ⟨s, rfl⟩, hs⟩
      exact ⟨s, hs⟩
  refine ⟨⟨keys_ofText_bijOn, fun s => ?_, fun keys => keys_ofText_eq_iff⟩, resolve_ofText_append,
    fun s document v => resolve_eq_some_iff, found_iff, fun place hne hnamed => ?_,
    fun document v hhidden s hs => ?_⟩
  · exact intercalate_keysOf s
  · obtain ⟨s, hs⟩ := (exists_place_ofText_iff place).2 ⟨hne, hnamed⟩
    exact ⟨s, hs, fun t ht => place_ofText_injective (ht.trans hs.symm)⟩
  · obtain ⟨place, ⟨-, hnamed⟩, hplace⟩ := (found_iff document v).1 ⟨s, hs⟩
    obtain ⟨step, hstep, hnot⟩ := hhidden place hplace
    rw [hnamed step hstep] at hnot
    cases hnot

/-- The truth value is in an array below a key with a dot, so no path finds it; the number is
below two empty keys. -/
theorem paths_reach_empty_keys :
    let hidden : Value := .bool true
    let document : Value :=
      .object [("", .object [("", .number .zero)]), ("a.0", .array [hidden])]
    let place : List Step := [.key "", .key ""]
    (Writable ["", ""] ∧ (ofText ".").keys = ["", ""]) ∧
      ((place ≠ [] ∧ ∀ step ∈ place, step.isNamed) ∧ ∃! s, (ofText s).place = place) ∧
      (ofText ".").resolve document = some (.number .zero) ∧
      (∀ place, document.HasAt place hidden → ∃ step ∈ place, step.isNamed = false) ∧
      ∀ s, (ofText s).resolve document ≠ some hidden := by
  intro hidden document place
  obtain ⟨⟨-, -, hkeys⟩, -, hplace, -, hunique, hnone⟩ := paths_reach
  have hw : Writable ["", ""] := by decide
  have hne : place ≠ [] := by decide
  have hnamed : ∀ step ∈ place, step.isNamed := by decide
  have hzero : document.HasAt place (.number .zero) := .key rfl (.key rfl (.here _))
  have hdot : (ofText ".").keys = ["", ""] := (hkeys _ hw ".").2 (by decide)
  have hhidden : ∀ place, document.HasAt place hidden → ∃ step ∈ place, step.isNamed = false := by
    intro place h
    change Value.HasAt (.object _) place (.bool true) at h
    cases h with
    | key hu hv =>
      simp only [List.lookup_cons, List.lookup_nil] at hu
      split at hu
      · -- below the empty key there is only a number
        cases hu
        cases hv with
        | key hu hv =>
          simp only [List.lookup_cons, List.lookup_nil] at hu
          split at hu
          · cases hu
            cases hv
          · cases hu
      · split at hu
        · next hname =>
          rw [beq_iff_eq] at hname
          exact ⟨.key "a.0", by simp [hname], by decide⟩
        · cases hu
  exact ⟨⟨hw, hdot⟩, ⟨⟨hne, hnamed⟩, hunique place hne hnamed⟩,
    (hplace "." document _).2 hzero, hhidden, hnone document hidden hhidden⟩

end Path

end Targeting

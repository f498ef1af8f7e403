import Targeting.Json.Decoder
/-!
# What decoders keep

A decoder that does not stop hands on what its parts decode, and the lemmas
`*_eq_ok` say from which parts what was decoded has come. Of a record this gives an
invariant: what holds of the blank record, and is kept when any of its
fields is filled, holds of every record that is decoded (`record_keeps`), whether
that was written as an object or as an array of its fields.
-/

namespace Targeting.Json

/-! ## Runs that do not stop -/

section
variable {ε α β : Type}

theorem bind_eq_ok {x : Except ε α} {f : α → Except ε β} {b : β} :
    (x >>= f) = .ok b ↔ ∃ a, x = .ok a ∧ f a = .ok b := by
  cases x <;> simp [bind, Except.bind]

theorem map_eq_ok {x : Except ε α} {f : α → β} {b : β} :
    (f <$> x) = .ok b ↔ ∃ a, x = .ok a ∧ f a = b := by
  cases x <;> simp [Functor.map, Except.map]

theorem pure_eq_ok {a b : α} : (pure a : Except ε α) = .ok b ↔ a = b := by
  simp [pure, Except.pure]

theorem mapError_eq_ok {ε' : Type} {x : Except ε α} {f : ε → ε'} {a : α} :
    x.mapError f = .ok a ↔ x = .ok a := by
  constructor
  · intro h
    cases x with
    | ok b =>
      cases h
      rfl
    | error e => cases h
  · intro h
    rw [h]
    rfl

theorem foldlM_cons_eq_ok {f : β → α → Except ε β} {a : α} {as : List α} {b c : β} :
    (a :: as).foldlM f b = .ok c ↔ ∃ d, f b a = .ok d ∧ as.foldlM f d = .ok c := by
  rw [List.foldlM_cons, bind_eq_ok]

theorem mapM_cons_eq_ok {f : α → Except ε β} {a : α} {as : List α} {bs : List β} :
    (a :: as).mapM f = .ok bs ↔ ∃ b, f a = .ok b ∧ ∃ cs, as.mapM f = .ok cs ∧ b :: cs = bs := by
  simp only [List.mapM_cons, bind_eq_ok, pure_eq_ok]

/-- What every step of a fold keeps, the fold keeps. -/
theorem foldlM_keeps {P : β → Prop} {f : β → α → Except ε β} {as : List α}
    (hf : ∀ a ∈ as, ∀ b b', P b → f b a = .ok b' → P b') {b b' : β} (hb : P b)
    (h : as.foldlM f b = .ok b') : P b' := by
  induction as generalizing b with
  | nil =>
    rw [List.foldlM_nil, pure_eq_ok] at h
    exact h ▸ hb
  | cons a as ih =>
    obtain ⟨ha, has⟩ := List.forall_mem_cons.1 hf
    obtain ⟨c, hc, h⟩ := foldlM_cons_eq_ok.1 h
    exact ih has (ha _ _ hb hc) h

theorem forall_mem_of_mapM {P : β → Prop} {f : α → Except ε β}
    (hf : ∀ (a : α) (b : β), f a = .ok b → P b) {as : List α} {bs : List β}
    (h : as.mapM f = .ok bs) : ∀ b ∈ bs, P b := by
  induction as generalizing bs with
  | nil =>
    rw [List.mapM_nil, pure_eq_ok] at h
    simp [← h]
  | cons a as ih =>
    obtain ⟨c, hc, cs, hcs, rfl⟩ := mapM_cons_eq_ok.1 h
    exact List.forall_mem_cons.2 ⟨hf _ _ hc, ih hcs⟩

end

/-! ## Decoders -/

namespace Decoder

variable {α β : Type} {P : α → Prop}

theorem stop_ne_ok (problem : Problem) (offset : Nat) (a : α) : stop problem offset ≠ .ok a := by
  simp [stop]

theorem mismatch_ne_ok (expected : String) (o : Outline) (a : α) : mismatch expected o ≠ .ok a := by
  cases o <;> simp [mismatch, stop]

theorem stopAtFlaw_eq_ok {flaw : Option Flaw} {u : Unit} : stopAtFlaw flaw = .ok u ↔ flaw = none := by
  cases flaw <;> simp [stopAtFlaw]

theorem list_eq_ok {d : Decoder α} {o : Outline} {as : List α} :
    list d o = .ok as ↔ ∃ start refused items ending, o = .array start refused items ending ∧
      items.mapM d = .ok as ∧ ending.listFlaw? = none := by
  cases o with
  | array start refused items ending =>
    simp only [list, bind_eq_ok, pure_eq_ok, stopAtFlaw_eq_ok]
    constructor
    · rintro ⟨bs, hbs, _, he, rfl⟩
      exact ⟨start, refused, items, ending, rfl, hbs, he⟩
    · rintro ⟨_, _, _, _, ho, hitems, he⟩
      cases ho
      exact ⟨as, hitems, (), he, rfl⟩
  | _ => simp [list, mismatch_ne_ok]

theorem forall_mem_of_list {d : Decoder α} (hd : ∀ (o : Outline) (a : α), d o = .ok a → P a)
    {o : Outline} {as : List α} (h : list d o = .ok as) : ∀ a ∈ as, P a := by
  obtain ⟨_, _, _, _, -, hitems, -⟩ := list_eq_ok.1 h
  exact forall_mem_of_mapM hd hitems

/-! ## Records -/

/-- Whether filling the field keeps what holds of a record. -/
def Field.Keeps (P : α → Prop) (field : Field α) : Prop :=
  ∀ (o : Outline) (a a' : α), P a → field.fill o a = .ok a' → P a'

theorem required_keeps {name : String} {d : Decoder β} {set : β → α → α}
    (h : ∀ (o : Outline) (b : β) (a : α), d o = .ok b → P a → P (set b a)) :
    (required name d set).Keeps P := by
  intro o a a' ha hf
  obtain ⟨b, hb, rfl⟩ := map_eq_ok.1 hf
  exact h o b a hb ha

theorem defaulted_keeps {name : String} {d : Decoder β} {set : β → α → α}
    (h : ∀ (o : Outline) (b : β) (a : α), d o = .ok b → P a → P (set b a)) :
    (defaulted name d set).Keeps P := by
  intro o a a' ha hf
  obtain ⟨b, hb, rfl⟩ := map_eq_ok.1 hf
  exact h o b a hb ha

variable {r : Record α}

/-- A member that is not refused names no field and is passed over, or names one
that has not been filled and fills it. -/
theorem addMember_eq_ok {m : Member Outline} {state state' : List String × α} :
    r.addMember state m = .ok state' ↔ ∃ name, m.key = .ok name ∧
      ((r.fields.find? (·.name == name) = none ∧ m.value.passingFlaw? = none ∧ state = state') ∨
        ∃ field, r.fields.find? (·.name == name) = some field ∧ name ∉ state.1 ∧
          ∃ a, field.fill m.value state.2 = .ok a ∧ (name :: state.1, a) = state') := by
  rw [Record.addMember, bind_eq_ok]
  refine exists_congr fun name => and_congr_right fun _ => ?_
  cases r.fields.find? (·.name == name) with
  | none => simp [map_eq_ok, stopAtFlaw_eq_ok]
  | some field =>
    by_cases hn : name ∈ state.1
    · simp [hn, throw, throwThe, MonadExceptOf.throw, bind, Except.bind]
    · simp [hn, map_eq_ok]

theorem ofMembers_eq_ok {members : List (Member Outline)} {ending : Ending Outline} {a : α} :
    r.ofMembers members ending = .ok a ↔
      ending.objectFlaw? = none ∧ ∃ filled, members.foldlM r.addMember ([], r.blank) = .ok (filled, a) ∧
        ∀ field ∈ r.fields, field.isRequired → field.name ∈ filled := by
  simp only [Record.ofMembers, bind_eq_ok, Prod.exists, stopAtFlaw_eq_ok]
  constructor
  · rintro ⟨filled, b, hm, _, he, h⟩
    split at h
    · exact absurd h (stop_ne_ok _ _ _)
    · next hnone =>
      rw [pure_eq_ok] at h
      subst h
      exact ⟨he, filled, hm, by simpa using hnone⟩
  · rintro ⟨he, filled, hm, hall⟩
    have hnone : (r.fields.find? fun f => f.isRequired && !filled.contains f.name) = none := by
      simpa using hall
    refine ⟨filled, a, hm, (), he, ?_⟩
    rw [hnone]
    rfl

theorem addMember_keeps {m : Member Outline}
    (hr : ∀ field ∈ r.fields, m.key = .ok field.name → field.Keeps P) {state state' : List String × α}
    (hs : P state.2) (h : r.addMember state m = .ok state') : P state'.2 := by
  obtain ⟨name, hname, ⟨-, -, rfl⟩ | ⟨field, hfind, -, a, ha, rfl⟩⟩ := addMember_eq_ok.1 h
  · exact hs
  · have hfield : field.name = name := by simpa using List.find?_some hfind
    exact hr field (List.mem_of_find?_eq_some hfind) (hfield ▸ hname) _ _ _ hs ha

/-- What the fields that are named by members keep is kept. -/
theorem ofMembers_keeps {members : List (Member Outline)}
    (hr : ∀ field ∈ r.fields, ∀ m ∈ members, m.key = .ok field.name → field.Keeps P)
    (hb : P r.blank) {ending : Ending Outline} {a : α} (h : r.ofMembers members ending = .ok a) :
    P a := by
  obtain ⟨-, _, hfold, -⟩ := ofMembers_eq_ok.1 h
  refine foldlM_keeps (P := fun state => P state.2) ?_ hb hfold
  intro m hm _ _ hs h
  exact addMember_keeps (fun field hfield hkey => hr field hfield m hm hkey) hs h

theorem fillInOrder_keeps {ending : Ending Outline} {fields : List (Field α)} :
    ∀ {place : Nat} {items : List Outline} {a a' : α}, (∀ field ∈ fields, field.Keeps P) → P a →
      r.fillInOrder ending place fields items a = .ok a' → P a' := by
  induction fields with
  | nil =>
    intro place items a a' _ ha h
    rw [Record.fillInOrder] at h
    cases h
    exact ha
  | cons field fields ih =>
    intro place items a a' hf ha h
    obtain ⟨hfield, hf⟩ := List.forall_mem_cons.1 hf
    cases items with
    | nil =>
      rw [Record.fillInOrder, bind_eq_ok] at h
      obtain ⟨_, -, h⟩ := h
      split at h
      · exact absurd h (stop_ne_ok _ _ _)
      · exact ih hf ha h
    | cons item items =>
      rw [Record.fillInOrder, bind_eq_ok] at h
      obtain ⟨b, hb, h⟩ := h
      exact ih hf (hfield _ _ _ ha hb) h

/-- What holds of the blank record and is kept by filling each field holds of
every record that is decoded. -/
theorem record_keeps (hr : ∀ field ∈ r.fields, field.Keeps P) (hb : P r.blank) {origin : Origin}
    {o : Outline} {a : α} (h : record origin r o = .ok a) : P a := by
  cases o with
  | object start refused members ending => exact ofMembers_keeps (fun field hf _ _ _ => hr field hf) hb h
  | array start refused items ending =>
    rw [record, bind_eq_ok] at h
    obtain ⟨b, hfill, h⟩ := h
    rw [bind_eq_ok] at h
    obtain ⟨_, -, h⟩ := h
    rw [pure_eq_ok] at h
    exact h ▸ fillInOrder_keeps hr hb hfill
  | _ => cases h

end Decoder

/-! ## Texts -/

/-- A text is decoded if its outline is, and nothing follows its value. -/
theorem decodeText_eq_ok_iff {α : Type} {room : Nat} {d : Decoder α} {text : String} {a : α} :
    decodeText room d text = .ok a ↔
      d (Outline.ofText room text).1 = .ok a ∧ (Outline.ofText room text).2 = none := by
  rw [decodeText, mapError_eq_ok, bind_eq_ok]
  constructor
  · rintro ⟨b, hb, h⟩
    split at h
    · cases h
    · next hnone =>
      rw [pure_eq_ok] at h
      exact ⟨h ▸ hb, hnone⟩
  · rintro ⟨ha, hnone⟩
    refine ⟨a, ha, ?_⟩
    rw [hnone]
    rfl

theorem decodeText_eq_ok {α : Type} {room : Nat} {d : Decoder α} {text : String} {a : α}
    (h : decodeText room d text = .ok a) : d (Outline.ofText room text).1 = .ok a :=
  (decodeText_eq_ok_iff.1 h).1

end Targeting.Json

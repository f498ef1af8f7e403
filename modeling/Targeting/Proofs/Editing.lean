import Targeting.Proofs.Places
/-!
# Editing what is decoded

A record that is written as an object takes each field from the member of that
name, and from no other. So setting a member, whether it was there or not, sets
its field and leaves the others as they are (`ofMembers_set`), and changing an
item of an array changes that item of the list.
-/

namespace Targeting.Json

/-! ## Edits -/

/-- Whether members become others by setting the one of this name: its value is
replaced, or there was none and one is added, at any place. -/
inductive MemberSet (name : String) (value : Outline) :
    List (Member Outline) → List (Member Outline) → Prop
  | replaced {before after : List (Member Outline)} {m m' : Member Outline} (old : m.key = .ok name)
      (key : m'.key = .ok name) (set : m'.value = value) :
      MemberSet name value (before ++ m :: after) (before ++ m' :: after)
  | added {before after : List (Member Outline)} {m : Member Outline}
      (absent : ∀ m' ∈ before ++ after, m'.key ≠ .ok name)
      (key : m.key = .ok name) (set : m.value = value) :
      MemberSet name value (before ++ after) (before ++ m :: after)

/-- Whether an object becomes another by setting a member. -/
def Outline.SetsMember (name : String) (value : Outline) : Outline → Outline → Prop
  | .object _ _ ms ending, .object _ _ ms' ending' => ending = ending' ∧ MemberSet name value ms ms'
  | _, _ => False

/-- Whether an object becomes another by changing the value of a member that it has. -/
def Outline.AtMember (name : String) (change : Outline → Outline → Prop) : Outline → Outline → Prop
  | .object _ _ ms ending, .object _ _ ms' ending' => ending = ending' ∧
    ∃ m ∈ ms, m.key = .ok name ∧ ∃ value, change m.value value ∧ MemberSet name value ms ms'
  | _, _ => False

/-- Whether an array becomes another by changing the item at a place. -/
def Outline.AtItem (i : Nat) (change : Outline → Outline → Prop) : Outline → Outline → Prop
  | .array _ _ items ending, .array _ _ items' ending' => ending = ending' ∧
    ∃ item item', items[i]? = some item ∧ change item item' ∧ items' = items.set i item'
  | _, _ => False

theorem exists_memberSet (name : String) (value : Outline) (ms : List (Member Outline)) :
    ∃ ms', MemberSet name value ms ms' := by
  by_cases h : ∃ m ∈ ms, m.key = .ok name
  · obtain ⟨m, hm, hkey⟩ := h
    obtain ⟨before, after, rfl⟩ := List.append_of_mem hm
    refine ⟨before ++ { m with value := value } :: after, ?_⟩
    exact .replaced hkey hkey rfl
  · have habsent : ∀ m ∈ ms, m.key ≠ .ok name := fun m hm hkey => h ⟨m, hm, hkey⟩
    have hadded : MemberSet name value ([] ++ ms) ([] ++ ⟨.ok name, 0, 0, value, 0⟩ :: ms) :=
      .added habsent rfl rfl
    exact ⟨_, hadded⟩

namespace Outline

variable {start refused : Nat} {ms : List (Member Outline)} {ending : Ending Outline}

theorem exists_setsMember (name : String) (value : Outline) :
    ∃ o', SetsMember name value (.object start refused ms ending) o' := by
  obtain ⟨ms', hms'⟩ := exists_memberSet name value ms
  refine ⟨.object start refused ms' ending, ?_⟩
  exact ⟨rfl, hms'⟩

theorem exists_atMember {name : String} {m : Member Outline} (hm : m ∈ ms) (hkey : m.key = .ok name)
    {change : Outline → Outline → Prop} (hchange : ∃ value, change m.value value) :
    ∃ o', AtMember name change (.object start refused ms ending) o' := by
  obtain ⟨value, hvalue⟩ := hchange
  obtain ⟨ms', hms'⟩ := exists_memberSet name value ms
  refine ⟨.object start refused ms' ending, ?_⟩
  exact ⟨rfl, m, hm, hkey, value, hvalue, hms'⟩

end Outline

namespace Decoder

variable {α β : Type}

/-! ## Lists -/

theorem length_mapM {d : Decoder α} {items : List Outline} {as : List α}
    (h : items.mapM d = .ok as) : as.length = items.length := by
  induction items generalizing as with
  | nil =>
    rw [List.mapM_nil, pure_eq_ok] at h
    subst h
    rfl
  | cons x xs ih =>
    obtain ⟨b, -, bs, hbs, rfl⟩ := mapM_cons_eq_ok.1 h
    rw [List.length_cons, List.length_cons, ih hbs]

theorem mapM_set {d : Decoder α} {items : List Outline} {as : List α} (h : items.mapM d = .ok as)
    {i : Nat} {item : Outline} (hi : items[i]? = some item) :
    ∃ a, as[i]? = some a ∧ d item = .ok a ∧ ∀ {item' : Outline} {a' : α}, d item' = .ok a' →
      (items.set i item').mapM d = .ok (as.set i a') := by
  induction items generalizing as i with
  | nil => simp at hi
  | cons x xs ih =>
    obtain ⟨b, hb, bs, hbs, rfl⟩ := mapM_cons_eq_ok.1 h
    cases i with
    | zero =>
      cases hi
      refine ⟨b, rfl, hb, ?_⟩
      intro item' a' ha'
      exact mapM_cons_eq_ok.2 ⟨a', ha', bs, hbs, rfl⟩
    | succ i =>
      obtain ⟨a, ha, hd, hset⟩ := ih hbs hi
      refine ⟨a, ha, hd, ?_⟩
      intro item' a' ha'
      exact mapM_cons_eq_ok.2 ⟨b, hb, _, hset ha', rfl⟩

theorem exists_atItem {d : Decoder α} {o : Outline} {as : List α} (h : list d o = .ok as) {i : Nat}
    (hi : i < as.length) {change : Outline → Outline → Prop}
    (hchange : ∀ start refused items ending, o = .array start refused items ending →
      ∀ item ∈ items, ∃ item', change item item') : ∃ o', o.AtItem i change o' := by
  obtain ⟨start, refused, items, ending, rfl, hitems, -⟩ := list_eq_ok.1 h
  rw [length_mapM hitems] at hi
  obtain ⟨item', hitem⟩ := hchange _ _ _ _ rfl items[i] (List.getElem_mem hi)
  refine ⟨.array start refused (items.set i item') ending, ?_⟩
  exact ⟨rfl, _, item', List.getElem?_eq_getElem hi, hitem, rfl⟩

/-- Where an item of an array is changed, the list is changed at its place. -/
theorem list_atItem {d : Decoder α} {i : Nat} {change : Outline → Outline → Prop} {o o' : Outline}
    (ho : o.AtItem i change o') {as : List α} (h : list d o = .ok as) :
    ∃ item item' a, as[i]? = some a ∧ d item = .ok a ∧ change item item' ∧
      ∀ {a'}, d item' = .ok a' → list d o' = .ok (as.set i a') := by
  obtain ⟨start, refused, items, ending, rfl, hitems, he⟩ := list_eq_ok.1 h
  cases o' with
  | array start' refused' items' ending' =>
    obtain ⟨rfl, item, item', hi, hchange, rfl⟩ := ho
    obtain ⟨a, ha, hd, hset⟩ := mapM_set hitems hi
    refine ⟨item, item', a, ha, hd, hchange, ?_⟩
    intro a' ha'
    exact list_eq_ok.2 ⟨_, _, _, _, rfl, hset ha', he⟩
  | _ => cases ho

/-! ## Records -/

/-- Whether filling a field and changing a record can change places. -/
def Field.Commutes (field : Field α) (put : α → α) : Prop :=
  ∀ o a b, field.fill o a = .ok b → field.fill o (put a) = .ok (put b)

theorem required_commutes {name : String} {d : Decoder β} {set : β → α → α} {put : α → α}
    (h : ∀ b a, set b (put a) = put (set b a)) : (required name d set).Commutes put := by
  intro o a a' ha
  obtain ⟨b, hb, rfl⟩ := map_eq_ok.1 ha
  exact map_eq_ok.2 ⟨b, hb, h b a⟩

theorem defaulted_commutes {name : String} {d : Decoder β} {set : β → α → α} {put : α → α}
    (h : ∀ b a, set b (put a) = put (set b a)) : (defaulted name d set).Commutes put := by
  intro o a a' ha
  obtain ⟨b, hb, rfl⟩ := map_eq_ok.1 ha
  exact map_eq_ok.2 ⟨b, hb, h b a⟩

/-- Whether a value, as the member of a name, changes a record so: it fills the
field of that name, in place of what it was filled with, and no other field is
concerned. -/
structure Record.Puts (r : Record α) (name : String) (value : Outline) (put : α → α) : Prop where
  field : ∃ field, r.fields.find? (·.name == name) = some field ∧
    (∀ a, field.fill value a = .ok (put a)) ∧ ∀ o a b, field.fill o a = .ok b → put b = put a
  others : ∀ field ∈ r.fields, field.name ≠ name → field.Commutes put

/-- Whether two states of a record that is being filled differ in one field, which
is filled in the second. -/
def FilledBy (name : String) (put : α → α) (s t : List String × α) : Prop :=
  (∀ n, n ∈ t.1 ↔ n = name ∨ n ∈ s.1) ∧ t.2 = put s.2

section
variable {r : Record α} {name : String} {value : Outline} {put : α → α}

/-- A member of another name fills no field of this name. -/
theorem addMember_not_mem {m : Member Outline} (hm : m.key ≠ .ok name) {s s' : List String × α}
    (h : r.addMember s m = .ok s') (hs : name ∉ s.1) : name ∉ s'.1 := by
  obtain ⟨n, hn, ⟨-, -, rfl⟩ | ⟨_, -, -, _, -, rfl⟩⟩ := addMember_eq_ok.1 h
  · exact hs
  · have hne : name ≠ n := fun he => hm (he ▸ hn)
    simp [hne, hs]

theorem addMember_mem {m : Member Outline} {s s' : List String × α} (h : r.addMember s m = .ok s')
    (hs : name ∈ s.1) : name ∈ s'.1 := by
  obtain ⟨n, -, ⟨-, -, rfl⟩ | ⟨_, -, -, _, -, rfl⟩⟩ := addMember_eq_ok.1 h
  · exact hs
  · exact List.mem_cons_of_mem _ hs

theorem foldlM_not_mem {ms : List (Member Outline)} (hms : ∀ m ∈ ms, m.key ≠ .ok name)
    {s s' : List String × α} (h : ms.foldlM r.addMember s = .ok s') (hs : name ∉ s.1) :
    name ∉ s'.1 := by
  refine foldlM_keeps (P := fun s => name ∉ s.1) ?_ hs h
  intro m hm _ _ hs h
  exact addMember_not_mem (hms m hm) h hs

/-- A member of a field's name fills that field, which must not have been filled. -/
theorem addMember_field {field : Field α} (hfind : r.fields.find? (·.name == name) = some field)
    {m : Member Outline} (hkey : m.key = .ok name) {s s' : List String × α} :
    r.addMember s m = .ok s' ↔
      name ∉ s.1 ∧ ∃ a, field.fill m.value s.2 = .ok a ∧ (name :: s.1, a) = s' := by
  rw [addMember_eq_ok]
  constructor
  · rintro ⟨n, hn, hfills⟩
    cases hkey.symm.trans hn
    rcases hfills with ⟨hnone, -, -⟩ | ⟨field', hfind', hnot, ha⟩
    · cases hfind.symm.trans hnone
    · cases hfind.symm.trans hfind'
      exact ⟨hnot, ha⟩
  · rintro ⟨hnot, ha⟩
    exact ⟨name, hkey, .inr ⟨field, hfind, hnot, ha⟩⟩

/-- A field that has been filled is not filled again. -/
theorem foldlM_absent {field : Field α} (hfind : r.fields.find? (·.name == name) = some field)
    {ms : List (Member Outline)} {s s' : List String × α}
    (h : ms.foldlM r.addMember s = .ok s') (hs : name ∈ s.1) : ∀ m ∈ ms, m.key ≠ .ok name := by
  induction ms generalizing s with
  | nil => simp
  | cons m ms ih =>
    obtain ⟨u, hu, h⟩ := foldlM_cons_eq_ok.1 h
    refine List.forall_mem_cons.2 ⟨?_, ih h (addMember_mem hu hs)⟩
    intro hkey
    exact ((addMember_field hfind hkey).1 hu).1 hs

/-- A member of another name fills the same field in both states, and what it fills
it with does not concern the field in which they differ. -/
theorem addMember_filledBy (hr : r.Puts name value put) {m : Member Outline}
    (hm : m.key ≠ .ok name) {s s' t : List String × α} (h : r.addMember s m = .ok s')
    (hst : FilledBy name put s t) : ∃ t', r.addMember t m = .ok t' ∧ FilledBy name put s' t' := by
  obtain ⟨hfilled, hput⟩ := hst
  simp only [addMember_eq_ok] at h ⊢
  obtain ⟨n, hn, ⟨hnone, hpass, rfl⟩ | ⟨field, hfind, hnot, a, ha, rfl⟩⟩ := h
  · exact ⟨t, ⟨n, hn, .inl ⟨hnone, hpass, rfl⟩⟩, hfilled, hput⟩
  · have hne : n ≠ name := fun he => hm (he ▸ hn)
    have hname : field.name = n := by simpa using List.find?_some hfind
    have hfill := hr.others field (List.mem_of_find?_eq_some hfind) (hname ▸ hne) _ _ _ ha
    rw [← hput] at hfill
    refine ⟨(n :: t.1, put a), ⟨n, hn, .inr ⟨field, hfind, ?_, _, hfill, rfl⟩⟩, ?_, rfl⟩
    · simp [hfilled, hne, hnot]
    · intro k
      simp only [List.mem_cons, hfilled]
      exact or_left_comm

theorem foldlM_filledBy (hr : r.Puts name value put) {ms : List (Member Outline)}
    (hms : ∀ m ∈ ms, m.key ≠ .ok name) {s s' t : List String × α}
    (h : ms.foldlM r.addMember s = .ok s') (hst : FilledBy name put s t) :
    ∃ t', ms.foldlM r.addMember t = .ok t' ∧ FilledBy name put s' t' := by
  induction ms generalizing s t with
  | nil =>
    rw [List.foldlM_nil, pure_eq_ok] at h
    exact ⟨t, rfl, h ▸ hst⟩
  | cons m ms ih =>
    obtain ⟨hm, hms⟩ := List.forall_mem_cons.1 hms
    obtain ⟨u, hu, h⟩ := foldlM_cons_eq_ok.1 h
    obtain ⟨v, hv, huv⟩ := addMember_filledBy hr hm hu hst
    obtain ⟨t', ht', hs't'⟩ := ih hms h huv
    exact ⟨t', foldlM_cons_eq_ok.2 ⟨v, hv, ht'⟩, hs't'⟩

/-- The runs over the members before and after the edit agree up to the member that
is set, differ by it there, and go on to differ by it alone. -/
theorem foldlM_set (hr : r.Puts name value put) {ms ms' : List (Member Outline)}
    (hset : MemberSet name value ms ms') {s : List String × α}
    (h : ms.foldlM r.addMember ([], r.blank) = .ok s) :
    ∃ t, ms'.foldlM r.addMember ([], r.blank) = .ok t ∧ FilledBy name put s t := by
  obtain ⟨field, hfind, hvalue, hover⟩ := hr.field
  cases hset with
  | @replaced before after m m' old key set =>
    simp only [List.foldlM_append, List.foldlM_cons, bind_eq_ok] at h ⊢
    obtain ⟨u, hu, v, hv, h⟩ := h
    obtain ⟨hnot, a, ha, rfl⟩ := (addMember_field hfind old).1 hv
    have hm' : r.addMember u m' = .ok (name :: u.1, put u.2) :=
      (addMember_field hfind key).2 ⟨hnot, _, set ▸ hvalue _, rfl⟩
    have hdiffer : FilledBy name put (name :: u.1, a) (name :: u.1, put u.2) :=
      ⟨by simp, (hover _ _ _ ha).symm⟩
    have hafter := foldlM_absent hfind h List.mem_cons_self
    obtain ⟨t, ht, hst⟩ := foldlM_filledBy hr hafter h hdiffer
    exact ⟨t, ⟨u, hu, _, hm', ht⟩, hst⟩
  | @added before after m absent key set =>
    obtain ⟨hbefore, hafter⟩ := List.forall_mem_append.1 absent
    simp only [List.foldlM_append, List.foldlM_cons, bind_eq_ok] at h ⊢
    obtain ⟨u, hu, h⟩ := h
    have hnot : name ∉ u.1 := foldlM_not_mem hbefore hu (by simp)
    have hm : r.addMember u m = .ok (name :: u.1, put u.2) :=
      (addMember_field hfind key).2 ⟨hnot, _, set ▸ hvalue _, rfl⟩
    have hdiffer : FilledBy name put u (name :: u.1, put u.2) := ⟨by simp, rfl⟩
    obtain ⟨t, ht, hst⟩ := foldlM_filledBy hr hafter h hdiffer
    exact ⟨t, ⟨u, hu, _, hm, ht⟩, hst⟩

/-- Setting a member of an object sets the field of its name. -/
theorem ofMembers_set (hr : r.Puts name value put) {ms ms' : List (Member Outline)}
    (hset : MemberSet name value ms ms') {ending : Ending Outline} {a : α}
    (h : r.ofMembers ms ending = .ok a) : r.ofMembers ms' ending = .ok (put a) := by
  rw [ofMembers_eq_ok] at h ⊢
  obtain ⟨he, filled, hfold, hall⟩ := h
  obtain ⟨⟨filled', b⟩, hfold', hfilled, rfl⟩ := foldlM_set hr hset hfold
  refine ⟨he, filled', hfold', ?_⟩
  intro field hfield hrequired
  exact (hfilled _).2 (.inr (hall field hfield hrequired))

/-- A member of a field's name has a value that the field takes. -/
theorem fill_of_mem {field : Field α} (hfind : r.fields.find? (·.name == name) = some field)
    {ms : List (Member Outline)} {ending : Ending Outline} {a : α} (h : r.ofMembers ms ending = .ok a)
    {m : Member Outline} (hm : m ∈ ms) (hkey : m.key = .ok name) :
    ∃ b c, field.fill m.value b = .ok c := by
  obtain ⟨-, _, h, -⟩ := ofMembers_eq_ok.1 h
  obtain ⟨before, after, rfl⟩ := List.append_of_mem hm
  simp only [List.foldlM_append, List.foldlM_cons, bind_eq_ok] at h
  obtain ⟨u, -, v, hv, -⟩ := h
  obtain ⟨-, c, hc, -⟩ := (addMember_field hfind hkey).1 hv
  exact ⟨u.2, c, hc⟩

end

end Decoder

end Targeting.Json

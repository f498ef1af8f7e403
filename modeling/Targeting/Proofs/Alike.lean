import Mathlib.Data.List.Forall2
import Mathlib.Data.List.Nodup
import Targeting.Operator
import Targeting.Path
import Targeting.Proofs.Numbers
/-!
# Values alike

Two values are alike if they differ at most in the order in which the keys of
their objects are visited, and in numbers that count as the same. Everything
that an evaluation reads off a value is the same for values alike, as long as
numbers count as the same only if they are interchangeable.
-/

namespace Targeting

/-! ## Looking up keys -/

theorem lookup_eq_some_iff_mem {fields : Fields} (hn : (fields.map Prod.fst).Nodup) {key : String}
    {v : Value} : fields.lookup key = some v ↔ (key, v) ∈ fields := by
  induction fields with
  | nil => simp
  | cons f rest ih =>
    obtain ⟨k, u⟩ := f
    simp only [List.map_cons, List.nodup_cons] at hn
    by_cases hk : key = k
    · subst hk
      have hne : (key, v) ∉ rest := fun h => hn.1 (List.mem_map_of_mem (f := Prod.fst) h)
      simp [hne, eq_comm]
    · have hb : (key == k) = false := by simpa using hk
      simp [List.lookup_cons, hb, ih hn.2, hk]

/-! ## The relation -/

/-- Whether the entries of two objects can be paired, in any order, so that the
keys of a pair are the same and the values related. -/
inductive Paired (R : Value → Value → Prop) : Fields → Fields → Prop
  | nil : Paired R [] []
  | cons {key : String} {x y : Value} {xs ys zs : Fields} :
    R x y → Paired R xs ys → zs.Perm ((key, y) :: ys) → Paired R ((key, x) :: xs) zs

/-- Whether two values are the same up to the order of the keys of their objects,
which have no key twice, and up to numbers that count as the `same`. -/
inductive Alike (same : Binary64 → Binary64 → Prop) : Value → Value → Prop
  | null : Alike same .null .null
  | bool (b : Bool) : Alike same (.bool b) (.bool b)
  | number {x y : Binary64} : same x y → Alike same (.number x) (.number y)
  | string (s : String) : Alike same (.string s) (.string s)
  | array {xs ys : List Value} : List.Forall₂ (Alike same) xs ys → Alike same (.array xs) (.array ys)
  | object {xs ys : Fields} : (xs.map Prod.fst).Nodup → Paired (Alike same) xs ys →
    Alike same (.object xs) (.object ys)

/-- What must hold of numbers that count as the same, so that no test tells them
apart. -/
structure Sameness (same : Binary64 → Binary64 → Prop) : Prop where
  interchangeable {x y : Binary64} : same x y → x.Interchangeable y
  ofNat (n : Nat) : same (.ofNat n) (.ofNat n)

namespace Paired

variable {R : Value → Value → Prop} {xs ys : Fields}

theorem keys_perm (h : Paired R xs ys) : (ys.map Prod.fst).Perm (xs.map Prod.fst) := by
  induction h with
  | nil => exact .refl _
  | cons _ _ hp ih => exact (hp.map Prod.fst).trans (ih.cons _)

theorem length_eq (h : Paired R xs ys) : xs.length = ys.length := by
  simpa using h.keys_perm.length_eq.symm

theorem mem_right (h : Paired R xs ys) {key : String} {x : Value} (hx : (key, x) ∈ xs) :
    ∃ y, (key, y) ∈ ys ∧ R x y := by
  induction h with
  | nil => cases hx
  | cons hr _ hp ih =>
    rcases List.mem_cons.1 hx with he | hx
    · cases he
      exact ⟨_, hp.symm.subset (List.mem_cons_self ..), hr⟩
    · obtain ⟨y, hy, hxy⟩ := ih hx
      exact ⟨y, hp.symm.subset (List.mem_cons_of_mem _ hy), hxy⟩

theorem lookup (h : Paired R xs ys) (hn : (xs.map Prod.fst).Nodup) (key : String) :
    Option.Rel R (xs.lookup key) (ys.lookup key) := by
  have hn' : (ys.map Prod.fst).Nodup := h.keys_perm.nodup_iff.2 hn
  cases hx : xs.lookup key with
  | some x =>
    obtain ⟨y, hy, hxy⟩ := h.mem_right ((lookup_eq_some_iff_mem hn).1 hx)
    rw [(lookup_eq_some_iff_mem hn').2 hy]
    exact .some hxy
  | none =>
    have hy : ys.lookup key = none := by
      rw [List.lookup_eq_none_iff] at hx ⊢
      intro p hp
      obtain ⟨q, hq, hqp⟩ := List.mem_map.1 (h.keys_perm.subset (List.mem_map_of_mem hp))
      rw [← hqp]
      exact hx q hq
    rw [hy]
    exact .none

end Paired

/-! ## Equality -/

theorem fieldsEqual_eq_all (xs ys : Fields) : fieldsEqual xs ys = xs.all fun f =>
    match ys.lookup f.1 with
    | some y => f.2.equal y
    | none => false := by
  induction xs with
  | nil => rfl
  | cons f rest ih =>
    rw [fieldsEqual, ih]
    rfl

variable {same : Binary64 → Binary64 → Prop}

mutual
/-- Values alike are equal to the same values. -/
theorem Alike.equal_eq (hs : Sameness same) :
    ∀ {a a' b b' : Value}, Alike same a a' → Alike same b b' → a.equal b = a'.equal b'
  | .number x, _, _, _, .number hx, hb => by
    cases hb with
    | number hy =>
      have hx' := hs.interchangeable hx
      have hy' := hs.interchangeable hy
      simp only [Value.equal, Binary64.equal, hx'.isNaN_eq, hx'.rank_eq, hy'.isNaN_eq, hy'.rank_eq]
    | _ => rfl
  | .null, _, _, _, .null, hb => by cases hb <;> rfl
  | .bool _, _, _, _, .bool _, hb => by cases hb <;> rfl
  | .string _, _, _, _, .string _, hb => by cases hb <;> rfl
  | .array xs, _, _, _, .array hx, hb => by
    cases hb with
    | array hy => simpa only [Value.equal] using itemsEqual_eq hs hx hy
    | _ => rfl
  | .object xs, _, _, _, .object hn hx, hb => by
    cases hb with
    | object hn' hy =>
      simp only [Value.equal, hx.length_eq, hy.length_eq, fieldsEqual_eq hs hx hn' hy]
    | _ => rfl

theorem itemsEqual_eq (hs : Sameness same) :
    ∀ {xs xs' ys ys' : List Value}, List.Forall₂ (Alike same) xs xs' →
      List.Forall₂ (Alike same) ys ys' → itemsEqual xs ys = itemsEqual xs' ys'
  | [], _, _, _, .nil, hy => by cases hy <;> rfl
  | x :: xs, _, _, _, .cons hx hxs, hy => by
    cases hy with
    | nil => rfl
    | cons hy hys => simp only [itemsEqual, hx.equal_eq hs hy, itemsEqual_eq hs hxs hys]

theorem fieldsEqual_eq (hs : Sameness same) :
    ∀ {xs xs' ys ys' : Fields}, Paired (Alike same) xs xs' → (ys.map Prod.fst).Nodup →
      Paired (Alike same) ys ys' → fieldsEqual xs ys = fieldsEqual xs' ys'
  | [], _, _, _, .nil, _, _ => rfl
  | (key, x) :: xs, xs', ys, ys', .cons hx hxs hp, hn, hy => by
    have hl := hy.lookup hn key
    rw [fieldsEqual_eq_all xs', hp.all_eq, ← fieldsEqual_eq_all, fieldsEqual, fieldsEqual,
      fieldsEqual_eq hs hxs hn hy]
    generalize ys.lookup key = y, ys'.lookup key = y' at hl ⊢
    cases hl with
    | none => rfl
    | some hy => simp only [hx.equal_eq hs hy]
end

/-! ## What a test reads off a value -/

namespace Alike

variable {u u' c c' : Value} {v v' : Option Value}

theorem isObject_eq (h : Alike same u u') : u.isObject = u'.isObject := by
  cases h <;> rfl

theorem kind_eq (h : Alike same u u') : u.kind = u'.kind := by
  cases h <;> rfl

theorem equalIfPresent_eq (hs : Sameness same) (hv : Option.Rel (Alike same) v v')
    (hc : Alike same c c') : Value.equalIfPresent v c = Value.equalIfPresent v' c' := by
  cases hv with
  | none => rfl
  | some hu => exact hu.equal_eq hs hc

theorem isAmong_eq (hs : Sameness same) (hv : Option.Rel (Alike same) v v') {cs cs' : List Value}
    (hc : List.Forall₂ (Alike same) cs cs') : Value.isAmong v cs = Value.isAmong v' cs' := by
  cases hv with
  | none => rfl
  | some hu =>
    induction hc with
    | nil => rfl
    | cons hc _ ih =>
      simp only [Value.isAmong, List.any_cons] at ih ⊢
      rw [hc.equal_eq hs hu, ih]

theorem order?_eq (hs : Sameness same) (hu : Alike same u u') (hc : Alike same c c') :
    u.order? c = u'.order? c' := by
  cases hu with
  | number hx =>
    cases hc with
    | number hy =>
      have hx' := hs.interchangeable hx
      have hy' := hs.interchangeable hy
      simp only [Value.order?, Binary64.order?, hx'.isNaN_eq, hx'.rank_eq, hy'.isNaN_eq, hy'.rank_eq]
    | _ => rfl
  | _ => cases hc <;> rfl

theorem isOrdered_eq (hs : Sameness same) (accepts : Ordering → Bool)
    (hv : Option.Rel (Alike same) v v') (hc : Alike same c c') :
    Value.isOrdered accepts v c = Value.isOrdered accepts v' c' := by
  cases hv with
  | none => rfl
  | some hu => simp only [Value.isOrdered, Option.bind_some, hu.order?_eq hs hc]

theorem text?_eq (hs : Sameness same) (hv : Option.Rel (Alike same) v v') :
    v.bind Value.text? = v'.bind Value.text? := by
  cases hv with
  | none => rfl
  | some hu =>
    cases hu with
    | number hx => simp only [Option.bind_some, Value.text?, (hs.interchangeable hx).numberText_eq]
    | _ => rfl

theorem asksForPresence_eq (hs : Sameness same) (hc : Alike same c c') :
    c.asksForPresence = c'.asksForPresence := by
  cases hc with
  | number hx =>
    have hx' := hs.interchangeable hx
    simp only [Value.asksForPresence, Value.isTruthy, hx'.isZero_eq, hx'.isNaN_eq]
  | _ => rfl

theorem hasNamedKind_eq (hv : Option.Rel (Alike same) v v') (hc : Alike same c c') :
    Value.hasNamedKind v c = Value.hasNamedKind v' c' := by
  have hk : Value.kind? v = Value.kind? v' := by
    cases hv with
    | none => rfl
    | some hu => exact hu.kind_eq
  cases hc with
  | string s => simp only [Value.hasNamedKind, hk]
  | _ => rfl

theorem all_isObject_eq {rs rs' : List Value} (h : List.Forall₂ (Alike same) rs rs') :
    rs.all Value.isObject = rs'.all Value.isObject := by
  induction h with
  | nil => rfl
  | cons h _ ih => simp only [List.all_cons, h.isObject_eq, ih]

end Alike

/-- Whether an object is one of operators depends on its keys alone. -/
theorem isOperatorObject_of_keys_perm {xs ys : Fields}
    (h : (xs.map Prod.fst).Perm (ys.map Prod.fst)) : isOperatorObject xs = isOperatorObject ys := by
  have hk (fields : Fields) : isOperatorObject fields =
      (!(fields.map Prod.fst).isEmpty && (fields.map Prod.fst).all isOperatorKey) := by
    simp [isOperatorObject, Function.comp_def]
  rw [hk, hk, h.all_eq, h.isEmpty_eq]

theorem isOperatorObject_eq {xs ys : Fields} (h : Paired (Alike same) xs ys) :
    isOperatorObject xs = isOperatorObject ys :=
  (isOperatorObject_of_keys_perm h.keys_perm).symm

theorem follow_rel (keys : List String) {d d' : Value} (h : Alike same d d') :
    Option.Rel (Alike same) (Path.follow keys d) (Path.follow keys d') := by
  induction keys generalizing d d' with
  | nil => exact .some h
  | cons key keys ih =>
    cases h with
    | @object xs ys hn hx =>
      have hl := hx.lookup hn key
      simp only [Path.follow]
      generalize xs.lookup key = x, ys.lookup key = y at hl ⊢
      cases hl with
      | none => exact .none
      | some hx => exact ih hx
    | _ => exact .none

theorem Alike.resolve (p : Path) {d d' : Value} (h : Alike same d d') :
    Option.Rel (Alike same) (p.resolve d) (p.resolve d') :=
  follow_rel p.keys h

end Targeting

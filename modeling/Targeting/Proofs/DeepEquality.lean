import Targeting.Proofs.Congruence
/-!
# Tests of equal values

Values that are equal are alike (`alike_of_equal`), so equal rules come to the
same on equal documents (`evaluate_equal`), although equality tells neither the
zeros nor the orders of keys apart.
-/

namespace Targeting

/-! ## Values whose objects have no key twice -/

mutual
def Value.Keyed : Value → Prop
  | .array items => itemsKeyed items
  | .object fields => (fields.map Prod.fst).Nodup ∧ fieldsKeyed fields
  | _ => True
termination_by structural v => v

def itemsKeyed : List Value → Prop
  | [] => True
  | v :: vs => v.Keyed ∧ itemsKeyed vs
termination_by structural vs => vs

def fieldsKeyed : List (String × Value) → Prop
  | [] => True
  | (_, v) :: rest => v.Keyed ∧ fieldsKeyed rest
termination_by structural fs => fs
end

mutual
/-- A value whose objects have no key twice can be visited in its own order. -/
theorem reordered_of_keyed : ∀ v : Value, v.Keyed → Reordered v v
  | .null, _ => .null
  | .bool b, _ => .bool b
  | .number _, _ => .number rfl
  | .string s, _ => .string s
  | .array items, h => .array (itemsReordered_of_keyed items h)
  | .object fields, h => .object h.1 (fieldsReordered_of_keyed fields h.2)
termination_by structural v => v

theorem itemsReordered_of_keyed : ∀ items : List Value, itemsKeyed items →
    List.Forall₂ Reordered items items
  | [], _ => .nil
  | v :: vs, h => .cons (reordered_of_keyed v h.1) (itemsReordered_of_keyed vs h.2)
termination_by structural items => items

theorem fieldsReordered_of_keyed : ∀ fields : Fields, fieldsKeyed fields →
    Paired Reordered fields fields
  | [], _ => .nil
  | (_, v) :: rest, h =>
    .cons (reordered_of_keyed v h.1) (fieldsReordered_of_keyed rest h.2) (.refl _)
termination_by structural fields => fields
end

theorem fieldsKeyed_iff {fields : Fields} : fieldsKeyed fields ↔ ∀ f ∈ fields, f.2.Keyed := by
  induction fields with
  | nil => simp [fieldsKeyed]
  | cons f rest ih => rw [fieldsKeyed, ih, List.forall_mem_cons]

theorem itemsKeyed_iff {items : List Value} : itemsKeyed items ↔ ∀ v ∈ items, v.Keyed := by
  induction items with
  | nil => simp [itemsKeyed]
  | cons v vs ih => rw [itemsKeyed, ih, List.forall_mem_cons]

section
variable {same : Binary64 → Binary64 → Prop}

mutual
/-- No object in values alike has a key twice. -/
theorem Alike.keyed : ∀ {a b : Value}, Alike same a b → a.Keyed ∧ b.Keyed
  | .null, _, .null | .bool _, _, .bool _ | .number _, _, .number _ | .string _, _, .string _ =>
    ⟨trivial, trivial⟩
  | .array _, _, .array h => itemsKeyed_of_alike h
  | .object _, _, .object hn h =>
    ⟨⟨hn, (fieldsKeyed_of_alike h).1⟩, h.keys_perm.nodup_iff.2 hn, (fieldsKeyed_of_alike h).2⟩

theorem itemsKeyed_of_alike : ∀ {xs ys : List Value}, List.Forall₂ (Alike same) xs ys →
    itemsKeyed xs ∧ itemsKeyed ys
  | [], _, .nil => ⟨trivial, trivial⟩
  | _ :: _, _, .cons h hs =>
    ⟨⟨h.keyed.1, (itemsKeyed_of_alike hs).1⟩, h.keyed.2, (itemsKeyed_of_alike hs).2⟩

theorem fieldsKeyed_of_alike : ∀ {xs ys : Fields}, Paired (Alike same) xs ys →
    fieldsKeyed xs ∧ fieldsKeyed ys
  | [], _, .nil => ⟨trivial, trivial⟩
  | (_, _) :: _, _, .cons h hs hp => by
    obtain ⟨hxs, hys⟩ := fieldsKeyed_of_alike hs
    refine ⟨⟨h.keyed.1, hxs⟩, ?_⟩
    rw [fieldsKeyed_iff] at hys ⊢
    intro f hf
    rcases List.mem_cons.1 (hp.subset hf) with rfl | hf
    · exact h.keyed.2
    · exact hys f hf
end

end

/-- What a path leads to in a value whose objects have no key twice is another one. -/
theorem keyed_of_resolve {document : Value} (h : document.Keyed) (p : Path) :
    ∀ v ∈ p.resolve document, v.Keyed := by
  intro v hv
  have hr := (reordered_of_keyed document h).resolve p
  rw [Option.mem_def.1 hv] at hr
  cases hr with
  | some hv => exact hv.keyed.1

/-! ## Equal values are alike -/

theorem lookup_append_cons_of_ne {key other : String} (hne : other ≠ key) (xs ys : Fields) (v : Value) :
    (xs ++ (key, v) :: ys).lookup other = (xs ++ ys).lookup other := by
  have hb : (other == key) = false := by simpa using hne
  simp [List.lookup_append, List.lookup_cons, hb]

/-- An entry that no key of the first object names can be left out. -/
theorem fieldsEqual_append_cons {xs : Fields} {key : String} (hk : key ∉ xs.map Prod.fst)
    (ys zs : Fields) (v : Value) : fieldsEqual xs (ys ++ (key, v) :: zs) = fieldsEqual xs (ys ++ zs) := by
  induction xs with
  | nil => rfl
  | cons f rest ih =>
    simp only [List.map_cons, List.mem_cons, not_or] at hk
    simp only [fieldsEqual, ih hk.2, lookup_append_cons_of_ne (Ne.symm hk.1)]

mutual
theorem alike_of_equal : ∀ (a : Value) {b : Value}, a.Keyed → a.equal b →
    Alike (fun x y => x.equal y = true) a b
  | .null, .null, _, _ => .null
  | .bool a, .bool b, _, h => by
    cases (by simpa [Value.equal] using h : a = b)
    exact .bool a
  | .number _, .number _, _, h => .number h
  | .string s, .string t, _, h => by
    cases (by simpa [Value.equal] using h : s = t)
    exact .string s
  | .array xs, .array _, hk, h => .array (itemsAlike_of_equal xs hk h)
  | .object xs, .object ys, hk, h => by
    simp only [Value.equal, Bool.and_eq_true, beq_iff_eq] at h
    exact .object hk.1 (fieldsPaired_of_equal xs hk.1 hk.2 h.1 h.2)
termination_by structural a => a

theorem itemsAlike_of_equal : ∀ (xs : List Value) {ys : List Value}, itemsKeyed xs →
    itemsEqual xs ys → List.Forall₂ (Alike fun x y => x.equal y = true) xs ys
  | [], [], _, _ => .nil
  | x :: xs, y :: ys, hk, h => by
    simp only [itemsEqual, Bool.and_eq_true] at h
    exact .cons (alike_of_equal x hk.1 h.1) (itemsAlike_of_equal xs hk.2 h.2)
termination_by structural xs => xs

theorem fieldsPaired_of_equal : ∀ (xs : Fields) {ys : Fields}, (xs.map Prod.fst).Nodup →
    fieldsKeyed xs → xs.length = ys.length → fieldsEqual xs ys →
    Paired (Alike fun x y => x.equal y = true) xs ys
  | [], [], _, _, _, _ => .nil
  | (key, x) :: xs, ys, hn, hk, hl, h => by
    simp only [List.map_cons, List.nodup_cons] at hn
    simp only [fieldsEqual, Bool.and_eq_true] at h
    cases hy : ys.lookup key with
    | none => simp [hy] at h
    | some y =>
      obtain ⟨before, after, rfl, -⟩ := List.lookup_eq_some_iff.1 hy
      rw [hy, fieldsEqual_append_cons hn.1] at h
      have hl' : xs.length = (before ++ after).length := by
        simp only [List.length_cons, List.length_append] at hl ⊢
        omega
      exact .cons (alike_of_equal x hk.1 h.1)
        (fieldsPaired_of_equal xs hn.2 hk.2 hl' h.2) List.perm_middle
termination_by structural xs => xs
end

/-! ## Tests -/

theorem sameness_equal : Sameness fun x y => x.equal y = true where
  interchangeable := Binary64.interchangeable_of_equal
  ofNat n := by simp [Binary64.equal, Binary64.isNaN_ofNat]

/-- Equal rules and conditions come to the same on equal documents and values. -/
theorem evaluate_equal [PatternEngine] :
    (∀ (r r' : Rule) (d d' : Value), (Value.object r.conditions).Keyed → d.Keyed →
      r.equal r' → d.equal d' → (r.evaluate d).Agree (r'.evaluate d')) ∧
    ∀ (v v' : Option Value) (c c' : Value), (∀ u ∈ v, u.Keyed) → c.Keyed →
      Option.Rel (fun u u' => u.equal u' = true) v v' → c.equal c' →
      (matchCondition v c).Agree (matchCondition v' c') := by
  constructor
  · intro r r' d d' hk hkd hr hd
    exact evaluate_alike sameness_equal (alike_of_equal _ hk hr) (alike_of_equal _ hkd hd)
  · intro v v' c c' hkv hk hv hc
    have hva : Option.Rel (Alike fun x y => x.equal y = true) v v' := by
      cases hv with
      | none => exact .none
      | some hu => exact .some (alike_of_equal _ (hkv _ rfl) hu)
    exact matchCondition_alike sameness_equal (alike_of_equal _ hk hc) hva

theorem evaluate_equal_zeros :
    let zero : Value := .number .zero
    let negative : Value := .number (.ofMagnitude true 0)
    let r : Rule := ⟨[("n", .object [("$in", .array [zero])])]⟩
    let r' : Rule := ⟨[("n", .object [("$in", .array [negative])])]⟩
    let d : Value := .object [("n", negative), ("m", .null)]
    let d' : Value := .object [("m", .null), ("n", zero)]
    ((Value.object r.conditions).Keyed ∧ d.Keyed ∧ r.equal r' ∧ d.equal d' ∧
      (r.evaluate d).Agree (r'.evaluate d')) ∧
    zero.Keyed ∧ negative.Keyed ∧ zero.equal negative ∧ negative.equal zero ∧
      (matchCondition (some negative) zero).Agree (matchCondition (some zero) negative) := by
  intro zero negative r r' d d'
  have hr : (Value.object r.conditions).Keyed := by simp [r, zero, Value.Keyed, fieldsKeyed, itemsKeyed]
  have hd : d.Keyed := by simp [d, negative, Value.Keyed, fieldsKeyed]
  have hrr : r.equal r' := by decide
  have hdd : d.equal d' := by decide
  have hz : zero.equal negative := by decide
  have hn : negative.equal zero := by decide
  refine ⟨⟨hr, hd, hrr, hdd, evaluate_equal.1 r r' d d' hr hd hrr hdd⟩, trivial, trivial, hz, hn, ?_⟩
  exact evaluate_equal.2 (some negative) (some zero) zero negative
    (by rintro _ ⟨⟩; trivial) trivial (.some hn) hz

end Targeting

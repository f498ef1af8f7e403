import Mathlib.Data.List.Perm.Subperm
import Targeting.Proofs.DeepEquality
/-!
# Equality as a relation

Objects are compared from one side: they have as many keys, and every key of the
first has an equal value in the second. No key is there twice, so this is to have the
same keys with equal values (`equal_object_iff`). Equality is symmetric and
transitive, whatever the order of keys, and a value equals itself just if none of its
numbers is a NaN (`equal_partial_equivalence`).
-/

namespace Targeting

/-! ## The numbers in a value -/

mutual
/-- The numbers in a value, at any depth. -/
def Value.numbers : Value → List Binary64
  | .number x => [x]
  | .array items => itemsNumbers items
  | .object fields => fieldsNumbers fields
  | _ => []
termination_by structural v => v

def itemsNumbers : List Value → List Binary64
  | [] => []
  | v :: vs => v.numbers ++ itemsNumbers vs
termination_by structural vs => vs

def fieldsNumbers : List (String × Value) → List Binary64
  | [] => []
  | (_, v) :: rest => v.numbers ++ fieldsNumbers rest
termination_by structural fs => fs
end

theorem fieldsNumbers_eq_flatMap (fields : Fields) :
    fieldsNumbers fields = fields.flatMap fun f => f.2.numbers := by
  induction fields with
  | nil => rfl
  | cons f rest ih => rw [fieldsNumbers, ih, List.flatMap_cons]

theorem fieldsNumbers_perm {xs ys : Fields} (h : xs.Perm ys) :
    (fieldsNumbers xs).Perm (fieldsNumbers ys) := by
  rw [fieldsNumbers_eq_flatMap, fieldsNumbers_eq_flatMap]
  exact h.flatMap_right _

variable {same : Binary64 → Binary64 → Prop}

/-- Whether every number of either list is related to one of the other. -/
structure Matched (same : Binary64 → Binary64 → Prop) (xs ys : List Binary64) : Prop where
  right : ∀ x ∈ xs, ∃ y ∈ ys, same x y
  left : ∀ y ∈ ys, ∃ x ∈ xs, same x y

namespace Matched

variable {xs ys xs' ys' : List Binary64}

theorem nil : Matched same [] [] := ⟨by simp, by simp⟩

theorem append (h : Matched same xs ys) (h' : Matched same xs' ys') :
    Matched same (xs ++ xs') (ys ++ ys') := by
  constructor
  · intro x hx
    rcases List.mem_append.1 hx with hx | hx
    · obtain ⟨y, hy, hxy⟩ := h.right x hx
      exact ⟨y, List.mem_append_left _ hy, hxy⟩
    · obtain ⟨y, hy, hxy⟩ := h'.right x hx
      exact ⟨y, List.mem_append_right _ hy, hxy⟩
  · intro y hy
    rcases List.mem_append.1 hy with hy | hy
    · obtain ⟨x, hx, hxy⟩ := h.left y hy
      exact ⟨x, List.mem_append_left _ hx, hxy⟩
    · obtain ⟨x, hx, hxy⟩ := h'.left y hy
      exact ⟨x, List.mem_append_right _ hx, hxy⟩

theorem perm (h : Matched same xs ys) (hp : ys.Perm ys') : Matched same xs ys' := by
  constructor
  · intro x hx
    obtain ⟨y, hy, hxy⟩ := h.right x hx
    exact ⟨y, hp.subset hy, hxy⟩
  · intro y hy
    exact h.left y (hp.symm.subset hy)

/-- What related numbers share holds of all of one list if it does of the other. -/
theorem forall_iff (h : Matched same xs ys) {P : Binary64 → Prop}
    (hP : ∀ {x y}, same x y → (P x ↔ P y)) : (∀ x ∈ xs, P x) ↔ ∀ y ∈ ys, P y := by
  constructor
  · intro hxs y hy
    obtain ⟨x, hx, hxy⟩ := h.left y hy
    exact (hP hxy).1 (hxs x hx)
  · intro hys x hx
    obtain ⟨y, hy, hxy⟩ := h.right x hx
    exact (hP hxy).2 (hys y hy)

end Matched

mutual
theorem Alike.numbers : ∀ {a b : Value}, Alike same a b → Matched same a.numbers b.numbers
  | .number x, .number y, .number h => ⟨by simpa [Value.numbers] using h, by simpa [Value.numbers] using h⟩
  | .array xs, .array ys, .array h => itemsNumbers_matched h
  | .object xs, .object ys, .object _ h => fieldsNumbers_matched h
  | .null, _, .null | .bool _, _, .bool _ | .string _, _, .string _ => .nil

theorem itemsNumbers_matched : ∀ {xs ys : List Value}, List.Forall₂ (Alike same) xs ys →
    Matched same (itemsNumbers xs) (itemsNumbers ys)
  | [], _, .nil => .nil
  | _ :: _, _, .cons hx hxs => hx.numbers.append (itemsNumbers_matched hxs)

theorem fieldsNumbers_matched : ∀ {xs ys : Fields}, Paired (Alike same) xs ys →
    Matched same (fieldsNumbers xs) (fieldsNumbers ys)
  | [], _, .nil => .nil
  | (_, _) :: _, _, .cons hx hxs hp =>
    (hx.numbers.append (fieldsNumbers_matched hxs)).perm (fieldsNumbers_perm hp.symm)
end

/-! ## Values that equal themselves -/

mutual
theorem equal_self_iff : ∀ a : Value, a.Keyed → (a.equal a ↔ ∀ x ∈ a.numbers, x.isNaN = false)
  | .null, _ | .bool _, _ | .string _, _ => by simp [Value.equal, Value.numbers]
  | .number x, _ => by simp [Value.equal, Value.numbers, Binary64.equal]
  | .array items, hk => itemsEqual_self_iff items hk
  | .object fields, hk => by
    have hl : ∀ f ∈ fields, fields.lookup f.1 = some f.2 := fun f hf =>
      (lookup_eq_some_iff_mem hk.1).2 hf
    simpa [Value.equal, Value.numbers] using fieldsEqual_self_iff fields hk.2 hl
termination_by structural a => a

theorem itemsEqual_self_iff : ∀ items : List Value, itemsKeyed items →
    (itemsEqual items items ↔ ∀ x ∈ itemsNumbers items, x.isNaN = false)
  | [], _ => by simp [itemsEqual, itemsNumbers]
  | v :: vs, hk => by
    rw [itemsEqual, Bool.and_eq_true, itemsNumbers, List.forall_mem_append, equal_self_iff v hk.1,
      itemsEqual_self_iff vs hk.2]
termination_by structural items => items

/-- The entries `part` of an object are compared with that object. -/
theorem fieldsEqual_self_iff : ∀ (part : Fields) {fields : Fields}, fieldsKeyed part →
    (∀ f ∈ part, fields.lookup f.1 = some f.2) →
    (fieldsEqual part fields ↔ ∀ x ∈ fieldsNumbers part, x.isNaN = false)
  | [], _, _, _ => by simp [fieldsEqual, fieldsNumbers]
  | (key, v) :: rest, fields, hk, hl => by
    obtain ⟨hv, hrest⟩ := List.forall_mem_cons.1 hl
    rw [fieldsEqual, hv, Bool.and_eq_true, fieldsNumbers, List.forall_mem_append,
      equal_self_iff v hk.1, fieldsEqual_self_iff rest hk.2 hrest]
termination_by structural part => part
end

/-! ## Symmetry and transitivity -/

section
variable {a b c : Value}

/-- A number that equals another is no NaN, so what is equal to anything holds none. -/
theorem Alike.equal_self (h : Alike (fun x y => x.equal y = true) a b) : a.equal a := by
  rw [equal_self_iff a h.keyed.1]
  intro x hx
  obtain ⟨y, -, hxy⟩ := h.numbers.right x hx
  simp only [Binary64.equal, Bool.and_eq_true, Bool.not_eq_true'] at hxy
  exact hxy.1.1

theorem Alike.equal (h : Alike (fun x y => x.equal y = true) a b) : a.equal b := by
  have haa : Alike (fun x y => x.equal y = true) a a := alike_of_equal a h.keyed.1 h.equal_self
  rw [← haa.equal_eq sameness_equal h]
  exact h.equal_self

theorem equal_symm (ha : a.Keyed) (h : a.equal b) : b.equal a := by
  have hab := alike_of_equal a ha h
  have haa := alike_of_equal a ha hab.equal_self
  -- `b` is equal to what `a` is equal to
  rw [← hab.equal_eq sameness_equal haa]
  exact hab.equal_self

theorem equal_trans (ha : a.Keyed) (hb : b.Keyed) (hc : c.Keyed) (h : a.equal b) (h' : b.equal c) :
    a.equal c := by
  have hcb := alike_of_equal c hc (equal_symm hb h')
  have hcc := alike_of_equal c hc hcb.equal_self
  rw [(alike_of_equal a ha h).equal_eq sameness_equal hcc]
  exact h'

end

theorem equal_comm {a b : Value} (ha : a.Keyed) (hb : b.Keyed) : a.equal b = b.equal a :=
  Bool.eq_iff_iff.2 ⟨equal_symm ha, equal_symm hb⟩

/-- A candidate is compared with the value, but the other way round comes to the same. -/
theorem isAmong_eq_any {v : Option Value} {candidates : List Value} (hv : ∀ u ∈ v, u.Keyed)
    (hc : (Value.array candidates).Keyed) :
    Value.isAmong v candidates = candidates.any (Value.equalIfPresent v) := by
  cases v with
  | none => simp [Value.isAmong, Value.equalIfPresent]
  | some u =>
    have hc' : ∀ c ∈ candidates, c.Keyed := itemsKeyed_iff.1 hc
    rw [Bool.eq_iff_iff, Value.isAmong, List.any_eq_true, List.any_eq_true]
    refine exists_congr fun c => and_congr_right fun hmem => ?_
    rw [Value.equalIfPresent, equal_comm (hc' c hmem) (hv u rfl)]

/-! ## Arrays and objects -/

theorem equal_array_iff {xs ys : List Value} : (Value.array xs).equal (.array ys) ↔
    xs.length = ys.length ∧ ∀ (i : Nat) (hx : i < xs.length) (hy : i < ys.length), xs[i].equal ys[i] := by
  rw [Value.equal]
  induction xs generalizing ys with
  | nil => cases ys <;> simp [itemsEqual]
  | cons x xs ih =>
    cases ys with
    | nil => simp [itemsEqual]
    | cons y ys =>
      simp only [itemsEqual, Bool.and_eq_true, ih, List.length_cons, Nat.add_right_cancel_iff]
      constructor
      · rintro ⟨hxy, hl, hall⟩
        refine ⟨hl, fun i hx hy => ?_⟩
        cases i with
        | zero => exact hxy
        | succ i => exact hall i (by omega) (by omega)
      · rintro ⟨hl, hall⟩
        refine ⟨hall 0 (by omega) (by omega), hl, fun i hx hy => ?_⟩
        exact hall (i + 1) (by omega) (by omega)

theorem mem_keys_iff {fields : Fields} (hn : (fields.map Prod.fst).Nodup) {key : String} :
    key ∈ fields.map Prod.fst ↔ ∃ v, fields.lookup key = some v := by
  simp [lookup_eq_some_iff_mem hn]

section
variable {xs ys : Fields} (hx : (xs.map Prod.fst).Nodup) (hy : (ys.map Prod.fst).Nodup)
include hx hy

/-- Of as many keys, none of them twice, the second object has no others if it has
all those of the first. -/
theorem keys_perm_of_equal (h : (Value.object xs).equal (.object ys)) :
    (xs.map Prod.fst).Perm (ys.map Prod.fst) := by
  simp only [Value.equal, Bool.and_eq_true, beq_iff_eq, fieldsEqual_eq_all, List.all_eq_true] at h
  obtain ⟨hlength, hfields⟩ := h
  have hsubset : xs.map Prod.fst ⊆ ys.map Prod.fst := by
    intro key hkey
    obtain ⟨f, hf, rfl⟩ := List.mem_map.1 hkey
    have hfound := hfields f hf
    rw [mem_keys_iff hy]
    cases hl : ys.lookup f.1 with
    | some v => exact ⟨v, rfl⟩
    | none => simp [hl] at hfound
  exact (hx.subperm hsubset).perm_of_length_le (by simp [hlength])

theorem equal_object_iff : (Value.object xs).equal (.object ys) ↔
    (∀ key, key ∈ xs.map Prod.fst ↔ key ∈ ys.map Prod.fst) ∧
      ∀ key u v, (key, u) ∈ xs → (key, v) ∈ ys → u.equal v := by
  constructor
  · intro h
    refine ⟨fun key => (keys_perm_of_equal hx hy h).mem_iff, fun key u v hu hv => ?_⟩
    simp only [Value.equal, Bool.and_eq_true, fieldsEqual_eq_all, List.all_eq_true] at h
    have huv := h.2 (key, u) hu
    rw [(lookup_eq_some_iff_mem hy).2 hv] at huv
    exact huv
  · rintro ⟨hkeys, hvalues⟩
    have hperm : (xs.map Prod.fst).Perm (ys.map Prod.fst) := (List.perm_ext_iff_of_nodup hx hy).2 hkeys
    simp only [Value.equal, Bool.and_eq_true, beq_iff_eq, fieldsEqual_eq_all, List.all_eq_true]
    refine ⟨by simpa using hperm.length_eq, fun f hf => ?_⟩
    obtain ⟨v, hv⟩ := (mem_keys_iff hy).1 ((hkeys f.1).1 (List.mem_map_of_mem hf))
    rw [hv]
    exact hvalues f.1 f.2 v hf ((lookup_eq_some_iff_mem hy).1 hv)

end

/-! ## Paths -/

theorem resolve_equal {a b : Value} (ha : a.Keyed) (h : a.equal b) (p : Path) :
    Option.Rel (fun u v => u.equal v = true) (p.resolve a) (p.resolve b) := by
  have halike := (alike_of_equal a ha h).resolve p
  generalize p.resolve a = u, p.resolve b = v at halike ⊢
  cases halike with
  | none => exact .none
  | some huv => exact .some huv.equal

/-! ## A partial equivalence -/

/-- Equality is symmetric and transitive, and a value equals itself just if no number
in it is a NaN. Objects are equal if they have the same keys with equal values, in any
orders; arrays if they are as long and equal place by place. At every path equal values
have equal values, or both have none. -/
theorem equal_partial_equivalence :
    (∀ a b : Value, a.Keyed → b.Keyed → a.equal b = b.equal a) ∧
    (∀ a b c : Value, a.Keyed → b.Keyed → c.Keyed → a.equal b → b.equal c → a.equal c) ∧
    (∀ a : Value, a.Keyed → (a.equal a ↔ ∀ x ∈ a.numbers, x.isNaN = false)) ∧
    (∀ xs ys : Fields, (xs.map Prod.fst).Nodup → (ys.map Prod.fst).Nodup →
      ((Value.object xs).equal (.object ys) ↔
        (∀ key, key ∈ xs.map Prod.fst ↔ key ∈ ys.map Prod.fst) ∧
          ∀ key u v, (key, u) ∈ xs → (key, v) ∈ ys → u.equal v)) ∧
    (∀ a a' b b' : Value, Reordered a a' → Reordered b b' → a.equal b = a'.equal b') ∧
    (∀ xs ys : List Value, (Value.array xs).equal (.array ys) ↔ xs.length = ys.length ∧
      ∀ (i : Nat) (hx : i < xs.length) (hy : i < ys.length), xs[i].equal ys[i]) ∧
    ∀ a b : Value, a.Keyed → b.Keyed → a.equal b → ∀ p : Path,
      Option.Rel (fun u v => u.equal v = true) (p.resolve a) (p.resolve b) := by
  refine ⟨?_, ?_, equal_self_iff, ?_, ?_, ?_, ?_⟩
  · intro a b ha hb
    exact equal_comm ha hb
  · intro a b c ha hb hc h h'
    exact equal_trans ha hb hc h h'
  · intro xs ys hx hy
    exact equal_object_iff hx hy
  · intro a a' b b' ha hb
    exact ha.equal_eq sameness_eq hb
  · intro xs ys
    exact equal_array_iff
  · intro a b ha _ h p
    exact resolve_equal ha h p

/-- Values that differ in the order of their keys and in the sign of a zero, one that
holds a NaN, and an object with a key more. -/
theorem equal_partial_equivalence_zeros :
    let m : String × Value := ("m", .array [.null])
    let zero : String × Value := ("n", .number .zero)
    let negative : String × Value := ("n", .number (.ofMagnitude true 0))
    let a : Value := .object [zero, m]
    let b : Value := .object [m, negative]
    let c : Value := .object [m, zero]
    let nan : Value := .object [("x", .array [.number .nan])]
    (a.Keyed ∧ b.Keyed ∧ c.Keyed ∧ a.equal b ∧ b.equal c ∧ a.equal b = b.equal a ∧ a.equal c) ∧
    (nan.Keyed ∧ nan.equal nan = false ∧ ¬∀ x ∈ nan.numbers, x.isNaN = false) ∧
    (([m].map Prod.fst).Nodup ∧ ([zero, m].map Prod.fst).Nodup ∧
      (Value.object [m]).equal a = false ∧ a.equal (.object [m]) = false ∧
      ¬∀ key, key ∈ [m].map Prod.fst ↔ key ∈ [zero, m].map Prod.fst) ∧
    (Reordered a c ∧ Reordered b b ∧ a.equal b = c.equal b) ∧
    Option.Rel (fun u v => u.equal v = true) ((Path.ofText "n").resolve a)
      ((Path.ofText "n").resolve b) := by
  intro m zero negative a b c nan
  obtain ⟨hsymm, htrans, hself, hobjects, horders, -, hpaths⟩ := equal_partial_equivalence
  have ha : a.Keyed := by simp [a, m, zero, Value.Keyed, fieldsKeyed, itemsKeyed]
  have hb : b.Keyed := by simp [b, m, negative, Value.Keyed, fieldsKeyed, itemsKeyed]
  have hc : c.Keyed := by simp [c, m, zero, Value.Keyed, fieldsKeyed, itemsKeyed]
  have hnan : nan.Keyed := by simp [nan, Value.Keyed, fieldsKeyed, itemsKeyed]
  have hab : a.equal b := by decide
  have hbc : b.equal c := by decide
  have hnn : nan.equal nan = false := by decide
  have hm : ([m].map Prod.fst).Nodup := by decide
  have hzm : ([zero, m].map Prod.fst).Nodup := by decide
  have hac : Reordered a c := .object (by decide)
    (.cons (.number rfl) (.cons (.array (.cons .null .nil)) .nil (.refl _)) (.swap ..))
  have hkeys : ¬∀ key, key ∈ [m].map Prod.fst ↔ key ∈ [zero, m].map Prod.fst := by
    intro h
    exact absurd ((h "n").2 (by decide)) (by decide)
  have hextra : (Value.object [m]).equal a = false := by
    rw [Bool.eq_false_iff]
    intro h
    exact hkeys ((hobjects _ _ hm hzm).1 h).1
  have hless : a.equal (.object [m]) = false := by decide
  have hbb : Reordered b b := reordered_of_keyed b hb
  refine ⟨⟨ha, hb, hc, hab, hbc, hsymm a b ha hb, htrans a b c ha hb hc hab hbc⟩,
    ⟨hnan, hnn, ?_⟩, ⟨hm, hzm, hextra, hless, hkeys⟩, ⟨hac, hbb, horders a c b b hac hbb⟩,
    hpaths a b ha hb hab _⟩
  rw [← hself nan hnan, hnn]
  exact Bool.false_ne_true

end Targeting

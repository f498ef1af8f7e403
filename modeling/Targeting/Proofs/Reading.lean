import Targeting.Proofs.Bounds
import Targeting.Proofs.Decoding
import Targeting.Value.Json
/-!
# How deep the reader goes

The reader of texts has room for so many containers open one inside another, and
what it reads goes no deeper than that (`depth_ofText_le`). A value nests no more
objects than there are containers in the outline that it is decoded from
(`nesting_toValue_le`).
-/

namespace Targeting.Json

/-! ## How deep an outline goes -/

mutual
/-- How many containers that can be read there are at most one inside another. -/
def Outline.depth : Outline → Nat
  | .array _ _ items _ => itemsDepth items + 1
  | .object _ _ members _ => membersDepth members + 1
  | _ => 0
termination_by structural o => o

def itemsDepth : List Outline → Nat
  | [] => 0
  | o :: os => max o.depth (itemsDepth os)
termination_by structural os => os

def membersDepth : List (Member Outline) → Nat
  | [] => 0
  | ⟨_, _, _, o, _⟩ :: ms => max o.depth (membersDepth ms)
termination_by structural ms => ms
end

/-! ## What the reader opens -/

@[simp]
theorem depth_stopAt (start : Nat) (first : Option Char) (problem : Problem) (offset : Nat) :
    (stopAt start first problem offset).1.depth = 0 := rfl

@[simp]
theorem depth_stopInNumber (start : Nat) (c : Cursor) (seen : Nat) :
    (stopInNumber start c seen).1.depth = 0 := by
  unfold stopInNumber
  split <;> rfl

@[simp]
theorem depth_finishNumber (start exponentStart : Nat) (t : NumberText) (c : Cursor) :
    (finishNumber start exponentStart t c).1.depth = 0 := by
  unfold finishNumber
  split <;> rfl

@[simp]
theorem depth_readExponentPart (start : Nat) (negative : Bool) (whole : List Nat)
    (fraction : Option (List Nat)) (c : Cursor) :
    (readExponentPart start negative whole fraction c).1.depth = 0 := by
  unfold readExponentPart
  split
  · split
    · dsimp only
      split <;> simp
    · simp
  · simp

@[simp]
theorem depth_readFractionPart (start : Nat) (negative : Bool) (whole : List Nat) (c : Cursor) :
    (readFractionPart start negative whole c).1.depth = 0 := by
  unfold readFractionPart
  split
  · split <;> simp
  · simp

@[simp]
theorem depth_readNumber (start : Nat) (negative : Bool) (c : Cursor) :
    (readNumber start negative c).1.depth = 0 := by
  unfold readNumber
  split <;> simp

theorem depth_readWord_le {letters : List Char} {value : Nat → Outline}
    (hv : ∀ i, (value i).depth = 0) (c : Cursor) (room : Nat) :
    (readWord letters value c).1.depth ≤ room := by
  unfold readWord
  split
  · simp [hv]
  · exact Nat.zero_le _

/-- Where there is no room a container is opened but cannot be read, and where
there is, its contents have room for one container less. -/
theorem depth_container_le {room start : Nat} {first : Char} {o : Outline}
    (ho : o.depth ≤ room - 1 + 1) :
    (if room = 0 then tooDeep start first o else o).depth ≤ room := by
  split
  · exact Nat.zero_le _
  · omega

section
variable {fuel : Nat} (hvalue : ∀ room c, (readValue room fuel c).1.depth ≤ room)
  (hitems : ∀ room c, itemsDepth (readItems room fuel c).1 ≤ room)
  (hmembers : ∀ room c, membersDepth (readMembers room fuel c).1 ≤ room)

include hitems hmembers in
theorem depth_readValue_succ_le (room : Nat) (c : Cursor) :
    (readValue room (fuel + 1) c).1.depth ≤ room := by
  rw [readValue]
  dsimp only
  split
  · simp
  · exact depth_readWord_le (fun _ => rfl) _ _
  · exact depth_readWord_le (fun _ => rfl) _ _
  · exact depth_readWord_le (fun _ => rfl) _ _
  · simp
  · split <;> exact Nat.zero_le _
  · apply depth_container_le
    apply Nat.succ_le_succ
    split
    · exact Nat.zero_le _
    · exact Nat.zero_le _
    · exact hitems _ _
  · apply depth_container_le
    apply Nat.succ_le_succ
    split
    · exact Nat.zero_le _
    · exact Nat.zero_le _
    · exact hmembers _ _
  · split <;> simp

include hvalue hitems in
theorem depth_readItems_succ_le (room : Nat) (c : Cursor) :
    itemsDepth (readItems room (fuel + 1) c).1 ≤ room := by
  have hv := hvalue room c
  rw [readItems]
  split
  · next item hi =>
    rw [hi] at hv
    exact Nat.max_le.2 ⟨hv, Nat.zero_le _⟩
  · next item after hi =>
    rw [hi] at hv
    have hlast : itemsDepth [item] ≤ room := Nat.max_le.2 ⟨hv, Nat.zero_le _⟩
    dsimp only
    split
    · exact hlast
    · exact hlast
    · split
      · exact hlast
      · exact hlast
      · exact Nat.max_le.2 ⟨hv, hitems _ _⟩
    · exact hlast

include hvalue hmembers in
theorem depth_readMembers_succ_le (room : Nat) (c : Cursor) :
    membersDepth (readMembers room (fuel + 1) c).1 ≤ room := by
  rw [readMembers]
  split
  · split
    · exact Nat.zero_le _
    · next key after _ =>
      have hv := hvalue room after.skipBlanks.skip
      dsimp only
      split
      · split
        · next value hi =>
          rw [hi] at hv
          exact Nat.max_le.2 ⟨hv, Nat.zero_le _⟩
        · next value _ hi =>
          rw [hi] at hv
          have hlast (keyEnd refused next : Nat) :
              membersDepth [⟨key, keyEnd, refused, value, next⟩] ≤ room :=
            Nat.max_le.2 ⟨hv, Nat.zero_le _⟩
          split
          · exact hlast _ _ _
          · exact hlast _ _ _
          · split
            · exact hlast _ _ _
            · exact hlast _ _ _
            · exact Nat.max_le.2 ⟨hv, hmembers _ _⟩
          · exact hlast _ _ _
      · exact Nat.zero_le _
      · exact Nat.zero_le _
  · exact Nat.zero_le _

end

/-- Nothing that the reader reads goes deeper than it has room for. The functions
of the reader call one another with less fuel, so one induction carries all three. -/
theorem depth_reader_le (fuel : Nat) :
    (∀ room c, (readValue room fuel c).1.depth ≤ room) ∧
    (∀ room c, itemsDepth (readItems room fuel c).1 ≤ room) ∧
    ∀ room c, membersDepth (readMembers room fuel c).1 ≤ room := by
  induction fuel with
  | zero => exact ⟨fun _ _ => Nat.zero_le _, fun _ _ => Nat.zero_le _, fun _ _ => Nat.zero_le _⟩
  | succ fuel ih =>
    obtain ⟨hvalue, hitems, hmembers⟩ := ih
    exact ⟨depth_readValue_succ_le hitems hmembers, depth_readItems_succ_le hvalue hitems,
      depth_readMembers_succ_le hvalue hmembers⟩

theorem depth_ofText_le (room : Nat) (text : String) : (Outline.ofText room text).1.depth ≤ room := by
  have hd := (depth_reader_le (2 * text.toList.length + 2)).1 room ⟨text.toList, 0⟩
  unfold Outline.ofText
  dsimp only
  split <;> exact hd

/-! ## How deep what is decoded is nested -/

theorem fieldsNesting_set_le (key : String) (v : Value) (fields : Fields) :
    fieldsNesting (fields.set key v) ≤ max v.nesting (fieldsNesting fields) := by
  induction fields with
  | nil => exact Nat.le_refl _
  | cons f rest ih =>
    obtain ⟨k, u⟩ := f
    unfold Fields.set
    split
    · simp only [fieldsNesting, fieldNesting]
      omega
    · simp only [fieldsNesting, fieldNesting]
      omega

mutual
theorem nesting_toValue_le : ∀ {o : Outline} {v : Value}, o.toValue = .ok v → v.nesting ≤ o.depth
  | .null _ _, _, h | .bool _ _ _, _, h | .number _ _ _, _, h | .string _ _ _, _, h => by
    rw [Outline.toValue] at h
    cases h
    exact Nat.zero_le _
  | .broken _ _ _ _, _, h => by
    rw [Outline.toValue] at h
    cases h
  | .array _ _ items ending, v, h => by
    rw [Outline.toValue, bind_eq_ok] at h
    obtain ⟨vs, hvs, h⟩ := h
    rw [bind_eq_ok] at h
    obtain ⟨_, -, h⟩ := h
    rw [pure_eq_ok] at h
    subst h
    exact Nat.le_succ_of_le (nesting_itemsToValues_le hvs)
  | .object _ _ members ending, v, h => by
    rw [Outline.toValue, bind_eq_ok] at h
    obtain ⟨fields, hfields, h⟩ := h
    rw [bind_eq_ok] at h
    obtain ⟨_, -, h⟩ := h
    rw [pure_eq_ok] at h
    subst h
    have hf := nesting_membersToFields_le hfields
    exact Nat.succ_le_succ (by simpa [fieldsNesting] using hf)

theorem nesting_itemsToValues_le : ∀ {os : List Outline} {vs : List Value},
    itemsToValues os = .ok vs → itemsNesting vs ≤ itemsDepth os
  | [], _, h => by
    cases h
    exact Nat.le_refl _
  | o :: os, vs, h => by
    rw [itemsToValues, bind_eq_ok] at h
    obtain ⟨w, hw, h⟩ := h
    rw [bind_eq_ok] at h
    obtain ⟨ws, hws, h⟩ := h
    rw [pure_eq_ok] at h
    subst h
    have hv := nesting_toValue_le hw
    have hvs := nesting_itemsToValues_le hws
    simp only [itemsNesting, itemsDepth]
    omega

theorem nesting_membersToFields_le : ∀ {ms : List (Member Outline)} {done fields : Fields},
    membersToFields ms done = .ok fields →
      fieldsNesting fields ≤ max (fieldsNesting done) (membersDepth ms)
  | [], _, _, h => by
    cases h
    exact Nat.le_max_left ..
  | ⟨key, _, _, o, _⟩ :: ms, done, fields, h => by
    rw [membersToFields, bind_eq_ok] at h
    obtain ⟨name, -, h⟩ := h
    rw [bind_eq_ok] at h
    obtain ⟨v, hv, h⟩ := h
    have hv := nesting_toValue_le hv
    have hset := fieldsNesting_set_le name v done
    have hms := nesting_membersToFields_le h
    simp only [membersDepth]
    omega
end

end Targeting.Json

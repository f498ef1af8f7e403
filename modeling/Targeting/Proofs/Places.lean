import Targeting.Feature.Decoder
import Targeting.Proofs.Decoding
/-!
# Places do not count

An outline says where everything is written, so that a decoder that stops can say
where. What a decoder takes, and what it makes of it, does not depend on that: it
takes an outline just if it takes it without the places, and to the same
(`Feature.placeless`).
-/

namespace Targeting

namespace Json

/-! ## Outlines without places -/

def Flaw.unplaced (f : Flaw) : Flaw := ⟨f.problem, 0⟩

def Ending.unplaced {α : Type} : Ending α → Ending α
  | .closed _ => .closed 0
  | .atEnd _ => .atEnd 0
  | .atEndAfterComma _ => .atEndAfterComma 0
  | .commaThenClose _ => .commaThenClose 0
  | .noComma _ => .noComma 0
  | .noKey _ found => .noKey 0 found
  | .brokenKey reading passing => .brokenKey reading.unplaced passing.unplaced

mutual
def Outline.unplaced : Outline → Outline
  | .null _ _ => .null 0 0
  | .bool _ _ b => .bool 0 0 b
  | .number _ _ n => .number 0 0 n
  | .string _ _ s => .string 0 0 s
  | .array _ _ items ending => .array 0 0 (itemsUnplaced items) ending.unplaced
  | .object _ _ members ending => .object 0 0 (membersUnplaced members) ending.unplaced
  | .broken _ first reading passing => .broken 0 first reading.unplaced (passing.map Flaw.unplaced)
termination_by structural o => o

def itemsUnplaced : List Outline → List Outline
  | [] => []
  | o :: os => o.unplaced :: itemsUnplaced os
termination_by structural os => os

def membersUnplaced : List (Member Outline) → List (Member Outline)
  | [] => []
  | ⟨key, _, _, o, _⟩ :: ms => ⟨key.mapError Flaw.unplaced, 0, 0, o.unplaced, 0⟩ :: membersUnplaced ms
termination_by structural ms => ms
end

def Member.unplaced (m : Member Outline) : Member Outline :=
  ⟨m.key.mapError Flaw.unplaced, 0, 0, m.value.unplaced, 0⟩

theorem itemsUnplaced_eq_map (os : List Outline) : itemsUnplaced os = os.map Outline.unplaced := by
  induction os with
  | nil => rfl
  | cons o os ih => rw [itemsUnplaced, ih, List.map_cons]

theorem membersUnplaced_eq_map (ms : List (Member Outline)) :
    membersUnplaced ms = ms.map Member.unplaced := by
  induction ms with
  | nil => rfl
  | cons m ms ih =>
    rw [membersUnplaced, ih, List.map_cons]
    rfl

theorem Member.key_unplaced {m : Member Outline} {name : String} :
    m.unplaced.key = .ok name ↔ m.key = .ok name := mapError_eq_ok

namespace Ending

variable {α : Type} (e : Ending α)

theorem unplaced_eq_closed : (∃ i, e.unplaced = .closed i) ↔ ∃ i, e = .closed i := by
  cases e <;> simp [unplaced]

theorem listFlaw?_unplaced : e.unplaced.listFlaw? = none ↔ e.listFlaw? = none := by
  cases e <;> simp [unplaced, listFlaw?]

theorem objectFlaw?_unplaced : e.unplaced.objectFlaw? = none ↔ e.objectFlaw? = none := by
  cases e <;> simp [unplaced, objectFlaw?]

theorem surplusFlaw?_unplaced : e.unplaced.surplusFlaw? = none ↔ e.surplusFlaw? = none := by
  cases e <;> simp [unplaced, surplusFlaw?]

theorem passedListFlaw?_unplaced : e.unplaced.passedListFlaw? = none ↔ e.passedListFlaw? = none := by
  cases e <;> simp [unplaced, passedListFlaw?, listFlaw?]

theorem passedObjectFlaw?_unplaced :
    e.unplaced.passedObjectFlaw? = none ↔ e.passedObjectFlaw? = none := by
  cases e <;> simp [unplaced, passedObjectFlaw?, objectFlaw?]

end Ending

mutual
theorem passingFlaw?_unplaced : ∀ o : Outline, o.unplaced.passingFlaw? = none ↔ o.passingFlaw? = none
  | .null _ _ | .bool _ _ _ | .number _ _ _ | .string _ _ _ => .rfl
  | .array _ _ items ending => by
    simp only [Outline.unplaced, Outline.passingFlaw?, Option.or_eq_none_iff,
      firstPassingFlaw?_unplaced items, ending.passedListFlaw?_unplaced]
  | .object _ _ members ending => by
    simp only [Outline.unplaced, Outline.passingFlaw?, Option.or_eq_none_iff,
      firstMemberFlaw?_unplaced members, ending.passedObjectFlaw?_unplaced]
  | .broken _ _ _ passing => by
    simp only [Outline.unplaced, Outline.passingFlaw?, Option.map_eq_none_iff]
termination_by structural o => o

theorem firstPassingFlaw?_unplaced : ∀ os : List Outline,
    firstPassingFlaw? (itemsUnplaced os) = none ↔ firstPassingFlaw? os = none
  | [] => .rfl
  | o :: os => by
    simp only [itemsUnplaced, firstPassingFlaw?, Option.or_eq_none_iff, passingFlaw?_unplaced o,
      firstPassingFlaw?_unplaced os]
termination_by structural os => os

theorem firstMemberFlaw?_unplaced : ∀ ms : List (Member Outline),
    firstMemberFlaw? (membersUnplaced ms) = none ↔ firstMemberFlaw? ms = none
  | [] => .rfl
  | ⟨_, _, _, o, _⟩ :: ms => by
    simp only [membersUnplaced, firstMemberFlaw?, Option.or_eq_none_iff, passingFlaw?_unplaced o,
      firstMemberFlaw?_unplaced ms]
termination_by structural ms => ms
end

/-! ## Decoders -/

namespace Decoder

variable {α β : Type}

/-- Whether a decoder takes an outline just if it takes it without the places, and
to the same. -/
def Placeless (d : Decoder α) : Prop := ∀ o a, d o.unplaced = .ok a ↔ d o = .ok a

theorem placeless_string : string.Placeless := by
  intro o a
  cases o <;> simp only [Outline.unplaced, string, mismatch_ne_ok]

theorem placeless_bool : bool.Placeless := by
  intro o a
  cases o <;> simp only [Outline.unplaced, bool, mismatch_ne_ok]

theorem placeless_number : number.Placeless := by
  intro o a
  cases o <;> simp only [Outline.unplaced, number, mismatch_ne_ok]

theorem placeless_unit : unit.Placeless := by
  intro o a
  cases o <;> simp only [Outline.unplaced, unit, mismatch_ne_ok]

variable {d : Decoder α}

theorem Placeless.optional (hd : d.Placeless) : (optional d).Placeless := by
  intro o a
  have hsome := hd o
  cases o <;> simp only [Outline.unplaced, Decoder.optional, map_eq_ok] at hsome ⊢ <;> simp only [hsome]

theorem Placeless.mapM (hd : d.Placeless) (os : List Outline) (as : List α) :
    (os.map Outline.unplaced).mapM d = .ok as ↔ os.mapM d = .ok as := by
  induction os generalizing as with
  | nil => rfl
  | cons o os ih =>
    simp only [List.map_cons, List.mapM_cons, bind_eq_ok, pure_eq_ok, hd o _, ih]

theorem Placeless.list (hd : d.Placeless) : (list d).Placeless := by
  intro o as
  cases o with
  | array start refused items ending =>
    simp only [Outline.unplaced, Decoder.list, bind_eq_ok, pure_eq_ok, stopAtFlaw_eq_ok,
      ending.listFlaw?_unplaced, itemsUnplaced_eq_map, hd.mapM]
  | _ => simp only [Outline.unplaced, Decoder.list, mismatch_ne_ok]

/-! ## Variants -/

section
variable {variants : List (String × α)} {a : α}

theorem variant_eq_ok {name : String} {offset : Nat} :
    variant variants name offset = .ok a ↔ variants.lookup name = some a := by
  unfold variant
  split
  · next b hb => simp [hb]
  · next hb => simp [hb, stop]

/-- Whether a member names a variant, and has null as its value. -/
def Names (variants : List (String × α)) (a : α) (m : Member Outline) : Prop :=
  ∃ name, m.key = .ok name ∧ variants.lookup name = some a ∧ ∃ u, unit m.value = .ok u

theorem names_unplaced {m : Member Outline} : Names variants a m.unplaced ↔ Names variants a m := by
  simp only [Names, Member.key_unplaced]
  simp only [Member.unplaced, placeless_unit m.value _]

theorem keyedVariant_eq_ok {members : List (Member Outline)} {ending : Ending Outline} :
    keyedVariant variants members ending = .ok a ↔
      (∃ m, members = [m] ∧ Names variants a m) ∧ ∃ i, ending = .closed i := by
  unfold keyedVariant
  cases members with
  | nil => cases ending <;> simp [stop, mismatch_ne_ok]
  | cons m rest =>
    simp only [bind_eq_ok, variant_eq_ok, Names]
    cases rest with
    | nil => cases ending <;> simp [stop, pure_eq_ok]
    | cons m' rest => simp [stop]

theorem choice_object_eq_ok {origin : Origin} {start refused : Nat}
    {members : List (Member Outline)} {ending : Ending Outline} :
    choice origin variants (.object start refused members ending) = .ok a ↔
      (∃ m, members = [m] ∧ Names variants a m) ∧ (origin = .text → ∃ i, ending = .closed i) := by
  cases origin with
  | text => simp only [choice, keyedVariant_eq_ok, forall_const]
  | tree =>
    match members with
    | [m] => simp [choice, Names, bind_eq_ok, variant_eq_ok, map_eq_ok]
    | [] | _ :: _ :: _ => simp [choice, stop]

theorem placeless_choice (origin : Origin) : (choice origin variants).Placeless := by
  intro o a
  cases o with
  | string start stop s => simp only [Outline.unplaced, choice, variant_eq_ok]
  | object start refused members ending =>
    simp only [Outline.unplaced, choice_object_eq_ok, membersUnplaced_eq_map,
      ending.unplaced_eq_closed, List.map_eq_singleton_iff]
    constructor
    · rintro ⟨⟨_, ⟨m, rfl, rfl⟩, hm⟩, he⟩
      exact ⟨⟨m, rfl, names_unplaced.1 hm⟩, he⟩
    · rintro ⟨⟨m, rfl, hm⟩, he⟩
      exact ⟨⟨_, ⟨m, rfl, rfl⟩, names_unplaced.2 hm⟩, he⟩
  | broken start first reading passing =>
    cases origin with
    | text =>
      simp only [Outline.unplaced, choice]
      split <;> simp [stop]
    | tree => simp only [Outline.unplaced, choice, mismatch_ne_ok]
  | _ => cases origin <;> simp only [Outline.unplaced, choice, mismatch_ne_ok, stop_ne_ok]

end

/-! ## Records -/

/-- Whether filling a field does not depend on the places in what it is filled with. -/
def Field.Placeless (field : Field α) : Prop :=
  ∀ o a b, field.fill o.unplaced a = .ok b ↔ field.fill o a = .ok b

theorem Placeless.required {d : Decoder β} (hd : d.Placeless) (name : String) (set : β → α → α) :
    (required name d set).Placeless := by
  intro o a b
  simp only [Decoder.required, map_eq_ok, hd o _]

theorem Placeless.defaulted {d : Decoder β} (hd : d.Placeless) (name : String) (set : β → α → α) :
    (defaulted name d set).Placeless := by
  intro o a b
  simp only [Decoder.defaulted, map_eq_ok, hd o _]

variable {r : Record α}

section
variable (hr : ∀ field ∈ r.fields, field.Placeless)
include hr

theorem addMember_unplaced (m : Member Outline) (state state' : List String × α) :
    r.addMember state m.unplaced = .ok state' ↔ r.addMember state m = .ok state' := by
  rw [addMember_eq_ok, addMember_eq_ok]
  refine exists_congr fun name => and_congr Member.key_unplaced (or_congr ?_ ?_)
  · rw [Member.unplaced, passingFlaw?_unplaced]
  · refine exists_congr fun field => and_congr_right fun hfield => and_congr_right fun _ => ?_
    simp only [Member.unplaced, hr field (List.mem_of_find?_eq_some hfield) _ _ _]

theorem foldlM_unplaced (members : List (Member Outline)) (state state' : List String × α) :
    (members.map Member.unplaced).foldlM r.addMember state = .ok state' ↔
      members.foldlM r.addMember state = .ok state' := by
  induction members generalizing state with
  | nil => rfl
  | cons m ms ih =>
    simp only [List.map_cons, List.foldlM_cons, bind_eq_ok, addMember_unplaced hr, ih]

theorem ofMembers_unplaced (members : List (Member Outline)) (ending : Ending Outline) (a : α) :
    r.ofMembers (members.map Member.unplaced) ending.unplaced = .ok a ↔
      r.ofMembers members ending = .ok a := by
  simp only [ofMembers_eq_ok, ending.objectFlaw?_unplaced, foldlM_unplaced hr]

omit hr in
theorem fillInOrder_unplaced {fields : List (Field α)} (hf : ∀ field ∈ fields, field.Placeless)
    (ending : Ending Outline) (place : Nat) (items : List Outline) (a b : α) :
    r.fillInOrder ending.unplaced place fields (items.map Outline.unplaced) a = .ok b ↔
      r.fillInOrder ending place fields items a = .ok b := by
  induction fields generalizing place items a with
  | nil => rfl
  | cons field fields ih =>
    obtain ⟨hfield, hfields⟩ := List.forall_mem_cons.1 hf
    cases items with
    | cons item items =>
      simp only [List.map_cons, Record.fillInOrder, bind_eq_ok, hfield _ _ _, ih hfields]
    | nil =>
      simp only [List.map_nil, Record.fillInOrder, bind_eq_ok, stopAtFlaw_eq_ok,
        ending.listFlaw?_unplaced]
      have hrest := ih hfields (place + 1) [] a
      rw [List.map_nil] at hrest
      split
      · simp only [stop_ne_ok]
      · rw [hrest]

omit hr in
theorem refuseSurplus_eq_ok {origin : Origin} {items : List Outline} {ending : Ending Outline}
    {u : Unit} : Record.refuseSurplus origin r items ending = .ok u ↔
      items.length ≤ r.fields.length ∧ ending.surplusFlaw? = none := by
  unfold Record.refuseSurplus
  rw [← List.drop_eq_nil_iff]
  cases items.drop r.fields.length with
  | nil => simp [stopAtFlaw_eq_ok]
  | cons item rest => cases origin <;> simp [stop]

theorem placeless_record (origin : Origin) : (record origin r).Placeless := by
  intro o a
  cases o with
  | object start refused members ending =>
    simp only [Outline.unplaced, record, membersUnplaced_eq_map, ofMembers_unplaced hr]
  | array start refused items ending =>
    simp only [Outline.unplaced, record, itemsUnplaced_eq_map, bind_eq_ok, pure_eq_ok,
      fillInOrder_unplaced hr, refuseSurplus_eq_ok, List.length_map, ending.surplusFlaw?_unplaced]
  | _ => simp only [Outline.unplaced, record, mismatch_ne_ok]

end

end Decoder

end Json

open Json (Origin Decoder)

/-! ## Features -/

theorem StoredCondition.placeless : Decoder.Placeless StoredCondition.decoder := by
  intro o a
  cases o <;> simp only [Json.Outline.unplaced, decoder, Decoder.mismatch_ne_ok, Decoder.stop_ne_ok]

theorem RolloutValue.placeless (origin : Origin) : (Decoder.record origin record).Placeless := by
  apply Decoder.placeless_record
  simp only [record, List.forall_mem_cons]
  exact ⟨Decoder.placeless_string.required _ _, Decoder.placeless_number.required _ _, by simp⟩

theorem FeatureRule.placeless (origin : Origin) : (decoder origin).Placeless := by
  have hstring := Decoder.placeless_string
  apply Decoder.placeless_record
  simp only [record, List.forall_mem_cons]
  refine ⟨?_, ?_, ?_, ?_, ?_, ?_, ?_, ?_, ?_, ?_, ?_, by simp⟩
  · exact (Decoder.placeless_choice origin).required _ _
  · exact hstring.defaulted _ _
  · exact StoredCondition.placeless.defaulted _ _
  · exact Decoder.placeless_bool.defaulted _ _
  · exact hstring.defaulted _ _
  · exact Decoder.placeless_number.optional.defaulted _ _
  · exact (RolloutValue.placeless origin).list.defaulted _ _
  · exact hstring.list.defaulted _ _
  all_goals exact hstring.optional.defaulted _ _

/-- What is made of a feature does not depend on where its parts are written. -/
theorem Feature.placeless (origin : Origin) : (decoder origin).Placeless := by
  have hstring := Decoder.placeless_string
  apply Decoder.placeless_record
  simp only [record, List.forall_mem_cons]
  refine ⟨?_, ?_, ?_, ?_, ?_, by simp⟩
  · exact hstring.required _ _
  · exact hstring.defaulted _ _
  · exact (Decoder.placeless_choice origin).required _ _
  · exact hstring.required _ _
  · exact (FeatureRule.placeless origin).list.defaulted _ _

end Targeting

import Targeting.Feature.Decoder
import Targeting.Proofs.Decoding
/-!
# Texts that are accepted

A text is read as a rule just where it is read as a value that is an object
(`Rule.ofText_eq_ok`), and a value is decoded just where a tree is
(`exists_toValue_iff`). A text with nothing but white space is read as neither.
-/

namespace Targeting

/-! ## White space -/

/-- The characters that Unicode gives the property White_Space. -/
def Text.whiteSpace : List Char :=
  ['\t', '\n', '\x0b', '\x0c', '\r', ' ', '\u0085', '\u00a0', '\u1680', '\u2000', '\u2001', '\u2002',
    '\u2003', '\u2004', '\u2005', '\u2006', '\u2007', '\u2008', '\u2009', '\u200a', '\u2028', '\u2029',
    '\u202f', '\u205f', '\u3000']

theorem Text.isBlank_iff (c : Char) : isBlank c ↔ c ∈ whiteSpace := by
  simp only [isBlank, whiteSpace, List.mem_cons, List.not_mem_nil, ← Char.toNat_inj]
  simp
  omega

theorem Text.isBlankText_iff (s : String) : isBlankText s ↔ ∀ c ∈ s.toList, c ∈ whiteSpace := by
  simp only [isBlankText, List.all_eq_true, isBlank_iff]

namespace Json

/-! ## Texts that are no values -/

theorem Cursor.skipBlanks_suffix (c : Cursor) : c.skipBlanks.rest <:+ c.rest := by
  unfold skipBlanks
  generalize c.rest = cs
  generalize c.offset = i
  induction cs generalizing i with
  | nil => exact List.suffix_rfl
  | cons x xs ih =>
    unfold skipBlanks.go
    split
    · exact (ih _).trans (List.suffix_cons x xs)
    · exact List.suffix_rfl

theorem digit?_of_blank {c : Char} (h : Text.isBlank c) : digit? c = none := by
  rw [digit?, if_neg]
  rintro ⟨hlow, hhigh⟩
  have hlow : 48 ≤ c.toNat := hlow
  have hhigh : c.toNat ≤ 57 := hhigh
  simp [Text.isBlank] at h
  omega

/-- No value begins with white space that is not skipped. -/
theorem Outline.ofText_blank {text : String} (h : Text.isBlankText text) (room : Nat) :
    ∃ start first reading passing, (ofText room text).1 = .broken start first reading passing := by
  suffices ∃ start first reading passing, (readValue room (2 * text.toList.length + 2)
      ⟨text.toList, 0⟩).1 = .broken start first reading passing by
    unfold ofText
    dsimp only
    split <;> exact this
  have hblank : ∀ c ∈ (Cursor.skipBlanks ⟨text.toList, 0⟩).rest, Text.isBlank c := by
    intro c hc
    exact List.all_eq_true.1 h c ((Cursor.skipBlanks_suffix _).mem hc)
  rw [readValue]
  dsimp only
  generalize (Cursor.skipBlanks ⟨text.toList, 0⟩) = c at hblank
  split
  · exact ⟨_, _, _, _, rfl⟩
  -- no white space begins a word, a negative number, a string or a container
  iterate 7
    next hc =>
      rw [hc] at hblank
      exact absurd (hblank _ List.mem_cons_self) (by decide)
  · next x _ _ _ _ _ _ _ _ hc =>
    rw [hc] at hblank
    have hx : digit? x = none := digit?_of_blank (hblank x List.mem_cons_self)
    rw [hx]
    exact ⟨_, _, _, _, rfl⟩

/-! ## Values and trees -/

theorem exists_bind_eq_ok {ε α β : Type} {x : Except ε α} {f : α → Except ε β} :
    (∃ b, (x >>= f) = .ok b) ↔ ∃ a, x = .ok a ∧ ∃ b, f a = .ok b := by
  cases x <;> simp [bind, Except.bind]

mutual
/-- A value is decoded just where a tree is. -/
theorem exists_toValue_iff : ∀ o : Outline, (∃ v, o.toValue = .ok v) ↔ ∃ j, o.toJson = .ok j
  | .null _ _ | .bool _ _ _ | .number _ _ _ | .string _ _ _ | .broken _ _ _ _ => by
    simp [Outline.toValue, Outline.toJson]
  | .array _ _ items ending => by
    have hitems := exists_itemsToValues_iff items
    simp only [Outline.toValue, Outline.toJson, exists_bind_eq_ok, pure_eq_ok, exists_eq', and_true,
      exists_and_right, hitems]
  | .object _ _ members ending => by
    have hmembers := exists_membersToFields_iff members [] []
    simp only [Outline.toValue, Outline.toJson, exists_bind_eq_ok, pure_eq_ok, exists_eq', and_true,
      exists_and_right, hmembers]
termination_by structural o => o

theorem exists_itemsToValues_iff : ∀ os : List Outline,
    (∃ vs, itemsToValues os = .ok vs) ↔ ∃ js, itemsToJson os = .ok js
  | [] => by simp [itemsToValues, itemsToJson]
  | o :: os => by
    have ho := exists_toValue_iff o
    have hos := exists_itemsToValues_iff os
    simp only [itemsToValues, itemsToJson, exists_bind_eq_ok, pure_eq_ok, exists_eq', and_true,
      exists_and_right, ho, hos]
termination_by structural os => os

theorem exists_membersToFields_iff : ∀ (ms : List (Member Outline)) (done : Fields)
    (done' : List (String × Json)),
    (∃ fields, membersToFields ms done = .ok fields) ↔ ∃ js, membersToJson ms done' = .ok js
  | [], _, _ => by simp [membersToFields, membersToJson]
  | ⟨_, _, _, o, _⟩ :: ms, done, done' => by
    have ho := exists_toValue_iff o
    have hms := exists_membersToFields_iff ms
    simp only [membersToFields, membersToJson, exists_bind_eq_ok]
    refine exists_congr fun key => and_congr_right fun _ => ?_
    constructor
    · rintro ⟨v, hv, h⟩
      obtain ⟨j, hj⟩ := ho.1 ⟨v, hv⟩
      exact ⟨j, hj, (hms _ _).1 h⟩
    · rintro ⟨j, hj, h⟩
      obtain ⟨v, hv⟩ := ho.2 ⟨j, hj⟩
      exact ⟨v, hv, (hms _ _).2 h⟩
termination_by structural ms => ms
end

theorem exists_toValue_object_iff (o : Outline) :
    (∃ fields, o.toValue = .ok (.object fields)) ↔ ∃ members, o.toJson = .ok (.object members) := by
  cases o with
  | object start refused members ending =>
    have hmembers := exists_membersToFields_iff members [] []
    simp only [Outline.toValue, Outline.toJson, bind_eq_ok, pure_eq_ok, Value.object.injEq,
      Json.object.injEq]
    constructor
    · rintro ⟨fields, fs, hfs, u, hu, -⟩
      obtain ⟨js, hjs⟩ := hmembers.1 ⟨fs, hfs⟩
      exact ⟨js, js, hjs, u, hu, rfl⟩
    · rintro ⟨members, js, hjs, u, hu, -⟩
      obtain ⟨fs, hfs⟩ := hmembers.2 ⟨js, hjs⟩
      exact ⟨fs, fs, hfs, u, hu, rfl⟩
  | _ => simp [Outline.toValue, Outline.toJson, bind_eq_ok, map_eq_ok]

theorem Decoder.fields_eq_ok {o : Outline} {fields : Fields} :
    Decoder.fields o = .ok fields ↔ o.toValue = .ok (.object fields) := by
  cases o with
  | object start refused members ending =>
    simp only [Decoder.fields, Outline.toValue, bind_eq_ok, pure_eq_ok, Value.object.injEq]
  | _ => simp [Decoder.fields, Decoder.mismatch_ne_ok, Outline.toValue, bind_eq_ok, map_eq_ok]

end Json

open Json (Outline Decoder)

/-! ## Rules -/

theorem Rule.decoder_eq_ok {o : Outline} {r : Rule} :
    decoder o = .ok r ↔ o.toValue = .ok (.object r.conditions) := by
  rw [← Decoder.fields_eq_ok, decoder, Json.map_eq_ok]
  constructor
  · rintro ⟨conditions, h, rfl⟩
    exact h
  · intro h
    exact ⟨r.conditions, h, rfl⟩

/-- A text is read as a rule just where it is read as a value that is an object. -/
theorem Rule.ofText_eq_ok {text : String} {r : Rule} : Rule.ofText text = .ok r ↔
    Json.decodeText Json.depthLimit Decoder.value text = .ok (.object r.conditions) := by
  rw [ofText, Json.decodeText_eq_ok_iff, Json.decodeText_eq_ok_iff, decoder_eq_ok]
  rfl

theorem Rule.exists_ofText_iff {text : String} : (∃ r, Rule.ofText text = .ok r) ↔
    ∃ members, Json.decodeText Json.depthLimit Outline.toJson text = .ok (.object members) := by
  simp only [ofText, Json.decodeText_eq_ok_iff, decoder_eq_ok, exists_and_right,
    ← Json.exists_toValue_object_iff]
  refine and_congr_left fun _ => ⟨?_, ?_⟩
  · rintro ⟨r, h⟩
    exact ⟨r.conditions, h⟩
  · rintro ⟨fields, h⟩
    exact ⟨⟨fields⟩, h⟩

theorem Rule.ofText_ne_ok_of_blank {text : String} (h : Text.isBlankText text) (r : Rule) :
    Rule.ofText text ≠ .ok r := by
  intro hr
  obtain ⟨_, _, _, _, ho⟩ := Outline.ofText_blank h Json.depthLimit
  have hd := (Json.decodeText_eq_ok_iff.1 hr).1
  rw [ho] at hd
  cases hd

/-! ## Stored conditions -/

namespace StoredCondition

variable {s : String}

theorem ofText_eq_always : ofText s = .always ↔ ∀ c ∈ s.toList, c ∈ Text.whiteSpace := by
  rw [← Text.isBlankText_iff]
  unfold ofText
  split
  · next h => simp [h]
  · next h =>
    split <;> simp [h]

theorem ofText_eq_rule {r : Rule} : ofText s = .rule r ↔ Rule.ofText s = .ok r := by
  unfold ofText
  split
  · next h => simp [Rule.ofText_ne_ok_of_blank h]
  · split
    · next hr => simp [hr]
    · next hr => simp [hr]

theorem exists_ofText_eq_invalid : (∃ e, ofText s = .invalid e) ↔
    (¬ ∀ c ∈ s.toList, c ∈ Text.whiteSpace) ∧ ¬ ∃ r, ofText s = .rule r := by
  rw [← ofText_eq_always]
  cases ofText s <;> simp

end StoredCondition

end Targeting

import Mathlib.Data.Set.Function
import Targeting.Path
import Targeting.Proofs.Paths
/-!
# Paths and their texts

A text is split at its dots and nothing of it is lost: the keys with dots between them are
the text again (`text_eq_intercalate`), and any keys without dots, at least one, are the keys
of the text that they are joined to (`keys_ofText_bijOn`). So the keys of a path determine
its text, and a path that comes from a text is known by its text and survives JSON. The root
path comes from no text. It is written as the path of one empty key is, and comes back as
that path (`known_by_text`).
-/

namespace Targeting

namespace Path

/-! ## Splitting and joining -/

theorem splitAtDots_eq_splitOn (cs : List Char) : splitAtDots cs = cs.splitOn '.' := by
  induction cs with
  | nil => rfl
  | cons c rest ih =>
    rw [List.splitOn] at ih ⊢
    rw [List.splitOnP_cons_eq_if_modifyHead, ← ih, splitAtDots]
    by_cases hc : c = '.'
    · simp [hc]
    · obtain ⟨piece, pieces, hp⟩ := List.exists_cons_of_ne_nil (splitAtDots_ne_nil rest)
      simp [hc, hp]

theorem toList_keysOf (s : String) : (keysOf s).map String.toList = s.toList.splitOn '.' := by
  rw [keysOf, List.map_map, splitAtDots_eq_splitOn]
  simp

theorem toList_intercalate_dot (keys : List String) :
    (".".intercalate keys).toList = ['.'].intercalate (keys.map String.toList) :=
  String.toList_intercalate

theorem intercalate_keysOf (s : String) : ".".intercalate (keysOf s) = s := by
  apply String.toList_injective
  rw [toList_intercalate_dot, toList_keysOf, List.intercalate_splitOn]

/-- The text of a path is its keys with dots between them, and that of the root is empty. -/
theorem text_eq_intercalate (p : Path) : p.text = ".".intercalate p.keys := by
  rcases p.written with hkeys | ⟨hkeys, htext⟩
  · rw [hkeys, intercalate_keysOf]
  · rw [hkeys, htext]
    rfl

theorem eq_of_keys {p q : Path} (h : p.keys = q.keys) : p = q := by
  have htext : p.text = q.text := by
    rw [text_eq_intercalate, h, text_eq_intercalate]
  cases p
  cases q
  cases h
  cases htext
  rfl

theorem not_mem_of_mem_splitAtDots {cs piece : List Char} (h : piece ∈ splitAtDots cs) :
    '.' ∉ piece := by
  induction cs generalizing piece with
  | nil => simp_all [splitAtDots]
  | cons c rest ih =>
    rw [splitAtDots] at h
    split at h
    · rcases List.mem_cons.1 h with rfl | h
      · exact List.not_mem_nil
      · exact ih h
    · next hc =>
      obtain ⟨first, pieces, hp⟩ := List.exists_cons_of_ne_nil (splitAtDots_ne_nil rest)
      rw [hp] at h ih
      rcases List.mem_cons.1 h with rfl | h
      · have hfirst := ih (List.mem_cons_self ..)
        simp [hfirst, Ne.symm hc]
      · exact ih (List.mem_cons_of_mem _ h)

/-! ## Keys that a text can write -/

/-- Whether keys can be written as a text: there is one, and none has a dot. -/
def Writable (keys : List String) : Prop := keys ≠ [] ∧ ∀ key ∈ keys, '.' ∉ key.toList

instance (keys : List String) : Decidable (Writable keys) := inferInstanceAs (Decidable (_ ∧ _))

theorem writable_keys_ofText (s : String) : Writable (ofText s).keys := by
  constructor
  · simpa [ofText, keysOf] using splitAtDots_ne_nil s.toList
  · intro key hkey
    obtain ⟨piece, hpiece, rfl⟩ := List.mem_map.1 hkey
    rw [String.toList_ofList]
    exact not_mem_of_mem_splitAtDots hpiece

theorem ofText_text {p : Path} (h : Writable p.keys) : ofText p.text = p := by
  rcases p.written with hkeys | ⟨hkeys, -⟩
  · exact eq_of_keys hkeys.symm
  · exact absurd hkeys h.1

theorem keysOf_intercalate {keys : List String} (h : Writable keys) :
    keysOf (".".intercalate keys) = keys := by
  have hdots : ∀ piece ∈ keys.map String.toList, '.' ∉ piece := by
    simpa using h.2
  have hpieces : (keysOf (".".intercalate keys)).map String.toList = keys.map String.toList := by
    rw [toList_keysOf, toList_intercalate_dot]
    exact List.splitOn_intercalate '.' hdots (by simpa using h.1)
  exact (List.map_inj_right fun _ _ => String.toList_inj.1).1 hpieces

theorem keys_ofText_eq_iff {keys : List String} (h : Writable keys) (s : String) :
    (ofText s).keys = keys ↔ s = ".".intercalate keys := by
  constructor
  · rintro rfl
    exact (intercalate_keysOf s).symm
  · rintro rfl
    exact keysOf_intercalate h

theorem keys_ofText_bijOn :
    Set.BijOn (fun s => (ofText s).keys) Set.univ {keys | Writable keys} := by
  refine ⟨fun s _ => writable_keys_ofText s, fun s _ t _ hst => ?_, fun keys hkeys => ?_⟩
  · exact congrArg text (eq_of_keys hst)
  · exact ⟨".".intercalate keys, trivial, (keys_ofText_eq_iff hkeys _).2 rfl⟩

/-! ## Paths through JSON -/

/-- The paths that are made: from a text or out of JSON, and the root. -/
inductive IsMade : Path → Prop
  | ofText (s : String) : IsMade (.ofText s)
  | ofJson {j : Json} {p : Path} : Path.ofJson j = .ok p → IsMade p
  | root : IsMade .root

theorem ofJson_eq_ok {j : Json} {p : Path} (h : ofJson j = .ok p) : ∃ s, p = ofText s := by
  cases j with
  | string s =>
    cases h
    exact ⟨s, rfl⟩
  | _ => cases h

theorem ofJson_toJson (p : Path) : ofJson p.toJson = .ok (ofText p.text) := rfl

theorem IsMade.eq_root_or_writable {p : Path} (h : p.IsMade) : p = .root ∨ Writable p.keys := by
  cases h with
  | ofText s => exact .inr (writable_keys_ofText s)
  | ofJson hj =>
    obtain ⟨s, rfl⟩ := ofJson_eq_ok hj
    exact .inr (writable_keys_ofText s)
  | root => exact .inl rfl

theorem not_writable_root : ¬Writable root.keys := fun h => h.1 rfl

/-- Whether what a path is encoded as is decoded as an equal path, which leads to the same
in every document. -/
def SurvivesJson (p : Path) : Prop :=
  ∃ q, ofJson p.toJson = .ok q ∧ q = p ∧ ∀ document, q.resolve document = p.resolve document

theorem survivesJson_iff (p : Path) : p.SurvivesJson ↔ Writable p.keys := by
  constructor
  · rintro ⟨q, hq, rfl, -⟩
    obtain ⟨s, rfl⟩ := ofJson_eq_ok hq
    exact writable_keys_ofText s
  · intro h
    have hp := ofText_text h
    exact ⟨ofText p.text, ofJson_toJson p, hp, fun _ => by rw [hp]⟩

/-- The root path does not survive JSON, and it has the text of another path. -/
theorem root_shares_text :
    IsMade root ∧ IsMade (ofText "") ∧
      ¬root.SurvivesJson ∧ ¬(root = ofText "" ↔ root.text = (ofText "").text) := by
  refine ⟨.root, .ofText "", ?_, by decide⟩
  rw [survivesJson_iff]
  exact not_writable_root

/-- Every path but the root survives JSON. Two paths are equal just if they have the same
text and are both the root or both not. What the root is encoded as is decoded as the path
of one empty key. -/
theorem known_by_text (p q : Path) (hp : p.IsMade) (hq : q.IsMade) :
    (p ≠ .root → p.SurvivesJson) ∧
      (p = q ↔ p.text = q.text ∧ (p = .root ↔ q = .root)) ∧
      ofJson (toJson .root) = .ok (ofText "") ∧ ofText "" ≠ .root := by
  have writable {r : Path} (hr : r.IsMade) (hne : r ≠ .root) : Writable r.keys :=
    hr.eq_root_or_writable.resolve_left hne
  refine ⟨fun hne => (survivesJson_iff p).2 (writable hp hne), ⟨?_, ?_⟩, rfl, by decide⟩
  · rintro rfl
    exact ⟨rfl, .rfl⟩
  · rintro ⟨htext, hroot⟩
    by_cases hr : p = .root
    · exact hr.trans (hroot.1 hr).symm
    · have hr' : q ≠ .root := mt hroot.2 hr
      rw [← ofText_text (writable hp hr), ← ofText_text (writable hq hr'), htext]

/-- A lone dot is two empty keys, whether it comes from a text or out of JSON. -/
theorem known_by_text_dot :
    let p : Path := .ofText "."
    let q : Path := ⟨["", ""], ".", .inl rfl⟩
    p.IsMade ∧ (ofJson (.string ".") = .ok q ∧ q.IsMade) ∧ p ≠ .root ∧ p.SurvivesJson ∧ p = q := by
  intro p q
  have hq : ofJson (.string ".") = .ok q := by decide
  have hne : p ≠ .root := by decide
  obtain ⟨hsurvives, hequal, -⟩ := known_by_text p q (.ofText ".") (.ofJson hq)
  exact ⟨.ofText ".", ⟨hq, .ofJson hq⟩, hne, hsurvives hne, hequal.2 (by decide)⟩

end Path

end Targeting

import Targeting.Path
/-!
# Paths put together

Two paths written one after the other, with a dot between them, lead where the
second leads from where the first does (`resolve_ofText_append`). Every text writes
a path of at least one key, so none leads anywhere from null.
-/

namespace Targeting

namespace Path

/-! ## Pieces -/

theorem splitAtDots_ne_nil (cs : List Char) : splitAtDots cs ≠ [] := by
  cases cs with
  | nil => simp [splitAtDots]
  | cons c rest =>
    unfold splitAtDots
    split
    · simp
    · split <;> simp

theorem splitAtDots_append (cs ds : List Char) :
    splitAtDots (cs ++ '.' :: ds) = splitAtDots cs ++ splitAtDots ds := by
  induction cs with
  | nil => simp [splitAtDots]
  | cons c rest ih =>
    by_cases hc : c = '.'
    · simp [splitAtDots, hc, ih]
    · obtain ⟨piece, pieces, hp⟩ := List.exists_cons_of_ne_nil (splitAtDots_ne_nil rest)
      rw [hp] at ih
      simp [splitAtDots, hc, ih, hp]

theorem keys_ofText_append (p q : String) :
    (ofText (p ++ "." ++ q)).keys = (ofText p).keys ++ (ofText q).keys := by
  have hl : (p ++ "." ++ q).toList = p.toList ++ '.' :: q.toList := by simp
  simp only [ofText, keysOf, hl, splitAtDots_append, List.map_append]

/-! ## What paths lead to -/

theorem follow_append (keys keys' : List String) (v : Value) :
    follow (keys ++ keys') v = (follow keys v).bind (follow keys') := by
  induction keys generalizing v with
  | nil => rfl
  | cons key keys ih =>
    cases v with
    | object fields =>
      simp only [List.cons_append, follow]
      cases fields.lookup key with
      | none => rfl
      | some u => exact ih u
    | _ => rfl

theorem resolve_ofText_append (p q : String) (document : Value) :
    (ofText (p ++ "." ++ q)).resolve document =
      ((ofText p).resolve document).bind (ofText q).resolve := by
  rw [resolve, keys_ofText_append, follow_append]
  rfl

theorem resolve_ofText_null (q : String) : (ofText q).resolve .null = none := by
  obtain ⟨piece, pieces, hp⟩ := List.exists_cons_of_ne_nil (splitAtDots_ne_nil q.toList)
  simp [resolve, ofText, keysOf, hp, follow]

/-- An absent value has nothing at any path, as null has not. -/
theorem resolve_ofText_append_getD (p q : String) (document : Value) :
    (ofText (p ++ "." ++ q)).resolve document =
      (ofText q).resolve (((ofText p).resolve document).getD .null) := by
  rw [resolve_ofText_append]
  cases (ofText p).resolve document with
  | none => exact (resolve_ofText_null q).symm
  | some v => rfl

end Path

end Targeting

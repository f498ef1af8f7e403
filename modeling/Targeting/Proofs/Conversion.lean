import Targeting.Feature.Decoder
import Targeting.Proofs.Accepting
/-!
# Conversion and decoding agree

A JSON tree is made a value in two ways: it is converted kind by kind, and it is
decoded as a value that has no tag, by the first of the variants of a value that
accepts it. No variant takes what another is meant for, so both come to the same
for every tree (`conversion_agrees`), and the rules read in the two ways do as well.
-/

namespace Targeting

namespace Json

namespace Decoder

/-! ## Values without a tag -/

/-- Adds a member to the fields that came before it. -/
def setDecoded (d : Decoder Value) (done : Fields) (m : Member Outline) : Except Flaw Fields := do
  let key ← m.key
  let v ← d m.value
  pure (Fields.set key v done)

/-- An object in which all values are decoded alike. -/
def map (d : Decoder Value) : Decoder Fields
  | .object _ _ members ending => do
    let fields ← members.foldlM (setDecoded d) []
    stopAtFlaw ending.objectFlaw?
    pure fields
  | o => mismatch "a map" o

/-- The variants of a value, in the order in which they are tried. The values inside
an array or an object are decoded by `d`. -/
def variants (d : Decoder Value) : List (Decoder Value) := [
  fun o => Value.string <$> string o,
  fun o => Value.array <$> list d o,
  fun o => Value.number <$> number o,
  fun o => Value.bool <$> bool o,
  fun o => Value.object <$> map d o,
  fun o => (fun _ => Value.null) <$> unit o]

/-- What the first variant that accepts an outline makes of it. -/
def firstAccepted (d : Decoder Value) (o : Outline) : Option Value :=
  (variants d).findSome? fun variant => (variant o).toOption

theorem itemsToValues_eq_mapM (os : List Outline) : itemsToValues os = os.mapM value := by
  induction os with
  | nil => rfl
  | cons o os ih => rw [itemsToValues, ih, List.mapM_cons, value]

theorem membersToFields_eq_foldlM (ms : List (Member Outline)) (done : Fields) :
    membersToFields ms done = ms.foldlM (setDecoded value) done := by
  induction ms generalizing done with
  | nil => rfl
  | cons m ms ih =>
    simp only [membersToFields, ih, List.foldlM_cons, setDecoded, bind_assoc, pure_bind]
    rfl

theorem value_array (start refused : Nat) (items : List Outline) (ending : Ending Outline) :
    value (.array start refused items ending) =
      Value.array <$> list value (.array start refused items ending) := by
  simp only [value, Outline.toValue, list, itemsToValues_eq_mapM, map_bind, map_pure]

theorem value_object (start refused : Nat) (members : List (Member Outline))
    (ending : Ending Outline) : value (.object start refused members ending) =
      Value.object <$> map value (.object start refused members ending) := by
  simp only [value, Outline.toValue, map, membersToFields_eq_foldlM, map_bind, map_pure]

theorem toOption_eq_some {ε α : Type} {x : Except ε α} {a : α} :
    x.toOption = some a ↔ x = .ok a := by
  cases x <;> simp [Except.toOption]

theorem toOption_map {ε α β : Type} (f : α → β) (x : Except ε α) :
    (f <$> x).toOption = x.toOption.map f := by
  cases x <;> rfl

theorem firstAccepted_array (d : Decoder Value) (start refused : Nat) (items : List Outline)
    (ending : Ending Outline) : firstAccepted d (.array start refused items ending) =
      (list d (.array start refused items ending)).toOption.map .array := by
  -- where `list` refuses its items, the variants after it refuse an array of any items
  simp only [firstAccepted, variants, List.findSome?_cons]
  cases list d (.array start refused items ending) <;> rfl

theorem firstAccepted_object (d : Decoder Value) (start refused : Nat)
    (members : List (Member Outline)) (ending : Ending Outline) :
    firstAccepted d (.object start refused members ending) =
      (map d (.object start refused members ending)).toOption.map .object := by
  simp only [firstAccepted, variants, List.findSome?_cons]
  cases map d (.object start refused members ending) <;> rfl

/-- A value is decoded by the first variant that accepts its outline: the variants
that are tried before the one for its kind refuse it. -/
theorem toOption_value (o : Outline) : (value o).toOption = firstAccepted value o := by
  cases o with
  | null | bool | number | string | broken => rfl
  | array start refused items ending => rw [firstAccepted_array, value_array, toOption_map]
  | object start refused members ending => rw [firstAccepted_object, value_object, toOption_map]

/-- A decoder that makes of every tree what the first variant makes of it that accepts
it. -/
def TakesFirst (d : Decoder Value) : Prop :=
  ∀ j : Json, (d (.ofJson j)).toOption = firstAccepted d (.ofJson j)

theorem value_takesFirst : TakesFirst value := fun j => toOption_value (.ofJson j)

/-! ## Trees -/

section

variable {d : Decoder Value}

theorem mapM_outlineItems {js : List Json}
    (h : ∀ j ∈ js, d (.ofJson j) = .ok (.ofJson j)) :
    (outlineItems js).mapM d = .ok (valuesOfJson js) := by
  induction js with
  | nil => rfl
  | cons j js ih =>
    obtain ⟨hj, hjs⟩ := List.forall_mem_cons.1 h
    rw [outlineItems, mapM_cons_eq_ok]
    exact ⟨_, hj, _, ih hjs, rfl⟩

/-- Decoded and converted, the members of an object are added in the same order, so a
repeated key keeps the same value. -/
theorem foldlM_outlineMembers {ms : List (String × Json)}
    (h : ∀ m ∈ ms, d (.ofJson m.2) = .ok (.ofJson m.2)) (done : Fields) :
    (outlineMembers ms).foldlM (setDecoded d) done =
      .ok ((pairsOfJson ms).foldl (fun fields p => Fields.set p.1 p.2 fields) done) := by
  induction ms generalizing done with
  | nil => rfl
  | cons m ms ih =>
    obtain ⟨key, j⟩ := m
    obtain ⟨hj, hms⟩ := List.forall_mem_cons.1 h
    have hset : setDecoded d done ⟨.ok key, 0, 0, .ofJson j, 0⟩ =
        .ok (Fields.set key (.ofJson j) done) := by
      simp only [setDecoded, hj]
      rfl
    rw [outlineMembers, foldlM_cons_eq_ok]
    exact ⟨_, hset, ih hms _⟩

end

end Decoder

/-- The trees right inside a tree. -/
def parts : Json → List Json
  | .array items => items
  | .object members => members.map (·.2)
  | _ => []

end Json

namespace Json.Decoder

variable {d : Decoder Value}

/-- Where the parts of a tree are decoded as they are converted, the first variant that
accepts the tree makes of it what it is converted to. -/
theorem firstAccepted_ofJson {j : Json} (h : ∀ i ∈ j.parts, d (.ofJson i) = .ok (.ofJson i)) :
    firstAccepted d (.ofJson j) = some (.ofJson j) := by
  cases j with
  | null | bool | string => rfl
  | number n => cases n <;> rfl
  | array items =>
    have hitems : (outlineItems items).mapM d = .ok (valuesOfJson items) := mapM_outlineItems h
    rw [Outline.ofJson, firstAccepted_array, list, hitems]
    rfl
  | object members =>
    have hmembers := foldlM_outlineMembers (fun m hm => h m.2 (List.mem_map_of_mem hm)) []
    rw [Outline.ofJson, firstAccepted_object, map, hmembers]
    rfl

mutual
/-- By induction on the tree: its parts are decoded as they are converted. -/
theorem TakesFirst.decodes (hd : TakesFirst d) : ∀ j : Json, d (.ofJson j) = .ok (.ofJson j)
  | .null | .bool _ | .number _ | .string _ => by
    rw [← toOption_eq_some, hd, firstAccepted_ofJson (by simp [parts])]
  | .array items => by
    have hparts : ∀ i ∈ (Json.array items).parts, d (.ofJson i) = .ok (.ofJson i) :=
      hd.decodes_items items
    rw [← toOption_eq_some, hd, firstAccepted_ofJson hparts]
  | .object members => by
    have hparts : ∀ i ∈ (Json.object members).parts, d (.ofJson i) = .ok (.ofJson i) :=
      List.forall_mem_map.2 (hd.decodes_members members)
    rw [← toOption_eq_some, hd, firstAccepted_ofJson hparts]
termination_by structural j => j

theorem TakesFirst.decodes_items (hd : TakesFirst d) :
    ∀ js : List Json, ∀ j ∈ js, d (.ofJson j) = .ok (.ofJson j)
  | [] => by simp
  | j :: js => List.forall_mem_cons.2 ⟨hd.decodes j, hd.decodes_items js⟩
termination_by structural js => js

theorem TakesFirst.decodes_members (hd : TakesFirst d) :
    ∀ ms : List (String × Json), ∀ m ∈ ms, d (.ofJson m.2) = .ok (.ofJson m.2)
  | [] => by simp
  | (_, j) :: ms => List.forall_mem_cons.2 ⟨hd.decodes j, hd.decodes_members ms⟩
termination_by structural ms => ms
end

theorem takesFirst_iff : TakesFirst d ↔ ∀ j : Json, d (.ofJson j) = .ok (.ofJson j) := by
  constructor
  · intro hd
    exact hd.decodes
  · intro h j
    rw [firstAccepted_ofJson fun i _ => h i, toOption_eq_some, h]

end Json.Decoder

open Json (Decoder decodeTree)

theorem Rule.ofValue_eq_ok {v : Value} {r : Rule} :
    Rule.ofValue v = .ok r ↔ v = .object r.conditions := by
  constructor
  · intro h
    unfold ofValue at h
    split at h
    · cases h
      rfl
    · cases h
  · rintro rfl
    rfl

/-- A rule is read from a tree just where the value that the tree is converted to is one. -/
theorem Rule.ofJson_eq_ok {j : Json} {r : Rule} :
    Rule.ofJson j = .ok r ↔ Rule.ofValue (.ofJson j) = .ok r := by
  have hvalue := Decoder.takesFirst_iff.1 Decoder.value_takesFirst j
  rw [Decoder.value] at hvalue
  rw [ofJson, decodeTree, Json.mapError_eq_ok, decoder_eq_ok, hvalue, ofValue_eq_ok, Except.ok.injEq]

/-- A decoder makes of every tree the value that the tree is converted to just where it
does what the first variant does that accepts it, as the decoder of values does. So every
tree is decoded, and the rules that are decoded are those that are converted. -/
theorem conversion_agrees :
    (∀ d : Decoder Value, d.TakesFirst ↔ ∀ j, decodeTree d j = .ok (Value.ofJson j)) ∧
      Decoder.value.TakesFirst ∧
      ∀ j, decodeTree Decoder.value j = .ok (Value.ofJson j) ∧
        ∀ r, Rule.ofJson j = .ok r ↔ Rule.ofValue (Value.ofJson j) = .ok r := by
  have hdecodes (d : Decoder Value) :
      d.TakesFirst ↔ ∀ j, decodeTree d j = .ok (Value.ofJson j) := by
    simp only [Decoder.takesFirst_iff, decodeTree, Json.mapError_eq_ok]
  refine ⟨hdecodes, Decoder.value_takesFirst, fun j => ⟨?_, fun r => Rule.ofJson_eq_ok⟩⟩
  exact (hdecodes _).1 Decoder.value_takesFirst j

end Targeting

import Targeting.Json.Reader
/-!
# Decoding JSON

A decoder makes a value of some type from an outline, or stops at the first flaw
it meets. It works the same on a text and on a tree that has already been read,
with three exceptions that `Origin` tells apart: names of variants and arrays
with too many fields are refused in other words, and only a text has places.

This much is taken as given of decoding:

* A number is the nearest binary64 number (`Decoder.numberValue`), and null stands for
  a value that may be left out (`Decoder.optional`).
* A variant without contents is its name, or an object with that name as its only key
  and null as its value (`Decoder.choice`).
* A record is an object, in which a field given twice or missing without a default is
  refused and a key that names no field is passed over, or an array of its fields in
  order (`Decoder.record`).
* Of a key that is repeated in a map the last value counts, and the keys of a tree are
  in increasing order (`setMember`).
-/

namespace Targeting.Json

/-- Whether an outline is of a text or of a tree. -/
inductive Origin where
  | text
  | tree
deriving DecidableEq, Repr

abbrev Decoder (α : Type) := Outline → Except Flaw α

namespace Decoder

variable {α β : Type}

def stop (problem : Problem) (offset : Nat) : Except Flaw α := .error ⟨problem, offset⟩

def stopAtFlaw : Option Flaw → Except Flaw Unit
  | some flaw => .error flaw
  | none => .ok ()

/-- Refuses a value. Simple values are read before they are refused, and
containers are not opened. -/
def mismatch (expected : String) : Decoder α
  | .null _ i => stop (.invalidType .null expected) i
  | .bool _ i b => stop (.invalidType (.bool b) expected) i
  | .number _ i n => stop (.invalidType (.number n) expected) i
  | .string _ i s => stop (.invalidType (.string s) expected) i
  | .array start _ _ _ => stop (.invalidType .sequence expected) start
  | .object start _ _ _ => stop (.invalidType .map expected) start
  | .broken _ _ reading _ => .error reading

/-! ## Simple values -/

def string : Decoder String
  | .string _ _ s => .ok s
  | o => mismatch "a string" o

def bool : Decoder Bool
  | .bool _ _ b => .ok b
  | o => mismatch "a boolean" o

/-- The nearest binary64 number. -/
def numberValue : JsonNumber → Binary64
  | .integer n => .ofInt n
  | .float x => x

def number : Decoder Binary64
  | .number _ _ n => .ok (numberValue n)
  | o => mismatch "f64" o

def unit : Decoder Unit
  | .null _ _ => .ok ()
  | o => mismatch "unit" o

/-- Takes null for no value. -/
def optional (d : Decoder α) : Decoder (Option α)
  | .null _ _ => .ok none
  | o => some <$> d o

def list (d : Decoder α) : Decoder (List α)
  | .array _ _ items ending => do
    let xs ← items.mapM d
    stopAtFlaw ending.listFlaw?
    pure xs
  | o => mismatch "a sequence" o

/-! ## Variants -/

/-- A name in a list of variants. -/
def variant (variants : List (String × α)) (name : String) (offset : Nat) : Except Flaw α :=
  match variants.lookup name with
  | some a => .ok a
  | none => stop (.unknownVariant name (variants.map (·.1))) offset

/-- The variant that the only key of an object names, with null as its value, in
a text. -/
def keyedVariant (variants : List (String × α)) (members : List (Member Outline))
    (ending : Ending Outline) : Except Flaw α :=
  match members with
  | [] =>
    match ending with
    | .closed after => stop .expectedValue after
    | .noKey _ found => mismatch "variant identifier" found
    | .brokenKey reading _ => .error reading
    | .atEnd i | .atEndAfterComma i | .commaThenClose i | .noComma i => stop .endInValue i
  | m :: rest => do
    let name ← m.key
    let a ← variant variants name m.keyEnd
    unit m.value
    match rest, ending with
    | [], .closed _ => pure a
    | [], .atEnd i => stop .endInObject i
    | _, _ => stop .expectedValue m.next

/-- A variant without contents: its name, or an object whose only key is its
name with null as its value. -/
def choice (origin : Origin) (variants : List (String × α)) : Decoder α := fun o =>
  match origin, o with
  | _, .string _ i s => variant variants s i
  | .text, .object _ _ members ending => keyedVariant variants members ending
  | .text, .broken start first reading _ =>
    if first = none ∨ first = some '"' ∨ first = some '\x7b' then .error reading
    else stop .expectedValue (start + 1)
  | .text, _ => stop .expectedValue (o.start + 1)
  | .tree, .object _ _ [m] _ => do
    let name ← m.key
    let a ← variant variants name m.keyEnd
    unit m.value
    pure a
  | .tree, .object start _ _ _ => stop (.invalidValue .map "map with a single key") start
  | .tree, o => mismatch "string or map" o

/-! ## Records -/

/-- A field of a record: how a value for it changes the record. -/
structure Field (α : Type) where
  name : String
  isRequired : Bool
  fill : Outline → α → Except Flaw α

/-- A record with its fields in order, and with all of them at their defaults. -/
structure Record (α : Type) where
  name : String
  fields : List (Field α)
  blank : α

/-- A field that has to be given. -/
def required (name : String) (d : Decoder β) (set : β → α → α) : Field α :=
  ⟨name, true, fun o a => (set · a) <$> d o⟩

/-- A field that may be left out. -/
def defaulted (name : String) (d : Decoder β) (set : β → α → α) : Field α :=
  ⟨name, false, fun o a => (set · a) <$> d o⟩

namespace Record

/-- How messages name a record. -/
def title (r : Record α) : String := "struct " ++ r.name

/-- One member of an object: it fills the field of its name, which must not have
been filled, and is passed over if there is none. -/
def addMember (r : Record α) (state : List String × α) (m : Member Outline) :
    Except Flaw (List String × α) := do
  let name ← m.key
  match r.fields.find? (·.name == name) with
  | none =>
    stopAtFlaw m.value.passingFlaw?
    pure state
  | some field =>
    if name ∈ state.1 then throw ⟨.duplicateField name, m.refused⟩
    let a ← field.fill m.value state.2
    pure (name :: state.1, a)

def ofMembers (r : Record α) (members : List (Member Outline)) (ending : Ending Outline) :
    Except Flaw α := do
  let (filled, a) ← members.foldlM r.addMember ([], r.blank)
  stopAtFlaw ending.objectFlaw?
  match r.fields.find? fun f => f.isRequired && !filled.contains f.name with
  | some f => stop (.missingField f.name) ending.after
  | none => pure a

/-- Fills the fields in order from the items of an array. Fields at the end that
have a default may be left out. -/
def fillInOrder (r : Record α) (ending : Ending Outline) (place : Nat) :
    List (Field α) → List Outline → α → Except Flaw α
  | [], _, a => pure a
  | field :: fields, item :: items, a => do
    fillInOrder r ending (place + 1) fields items (← field.fill item a)
  | field :: fields, [], a => do
    stopAtFlaw ending.listFlaw?
    if field.isRequired then
      stop (.invalidLength place
        (r.title ++ " with " ++ toString r.fields.length ++ " elements")) ending.after
    else fillInOrder r ending (place + 1) fields [] a

/-- Refuses items beyond the last field. -/
def refuseSurplus (origin : Origin) (r : Record α) (items : List Outline)
    (ending : Ending Outline) : Except Flaw Unit :=
  match items.drop r.fields.length, origin with
  | [], _ => stopAtFlaw ending.surplusFlaw?
  | item :: _, .text => stop .trailingCharacters (item.start + 1)
  | _ :: _, .tree => stop (.invalidLength items.length "fewer elements in array") 0

end Record

/-- A record, as an object or as an array of its fields. -/
def record (origin : Origin) (r : Record α) : Decoder α
  | .object _ _ members ending => r.ofMembers members ending
  | .array _ _ items ending => do
    let a ← r.fillInOrder ending 0 r.fields items r.blank
    Record.refuseSurplus origin r items ending
    pure a
  | o => mismatch r.title o

end Decoder

/-! ## Texts and trees -/

/-- Decodes a text, which must hold one value and nothing after it. -/
def decodeText {α : Type} (room : Nat) (d : Decoder α) (text : String) : Except Error α :=
  let (o, surplus) := Outline.ofText room text
  let result := do
    let a ← d o
    match surplus with
    | some i => Decoder.stop .trailingCharacters (i + 1)
    | none => pure a
  result.mapError fun flaw => ⟨flaw.problem, some (.ofOffset text flaw.offset)⟩

mutual
/-- The outline of a tree, in which all offsets are 0. -/
def Outline.ofJson : Json → Outline
  | .null => .null 0 0
  | .bool b => .bool 0 0 b
  | .number n => .number 0 0 n
  | .string s => .string 0 0 s
  | .array items => .array 0 0 (outlineItems items) (.closed 0)
  | .object members => .object 0 0 (outlineMembers members) (.closed 0)
termination_by structural j => j

def outlineItems : List Json → List Outline
  | [] => []
  | j :: js => .ofJson j :: outlineItems js
termination_by structural js => js

def outlineMembers : List (String × Json) → List (Member Outline)
  | [] => []
  | (key, j) :: rest => ⟨.ok key, 0, 0, .ofJson j, 0⟩ :: outlineMembers rest
termination_by structural ms => ms
end

/-- Decodes a tree. -/
def decodeTree {α : Type} (d : Decoder α) (j : Json) : Except Error α :=
  (d (.ofJson j)).mapError fun flaw => ⟨flaw.problem, none⟩

/-! ## Reading a tree from a text -/

/-- Adds a member to an object's members, which are in increasing order of their
keys; a later value takes the place of an earlier one. -/
def setMember (key : String) (j : Json) : List (String × Json) → List (String × Json)
  | [] => [(key, j)]
  | (k, i) :: rest =>
    if key = k then (key, j) :: rest
    else if key < k then (key, j) :: (k, i) :: rest
    else (k, i) :: setMember key j rest

mutual
/-- The tree that an outline is of. -/
def Outline.toJson : Outline → Except Flaw Json
  | .null _ _ => .ok .null
  | .bool _ _ b => .ok (.bool b)
  | .number _ _ n => .ok (.number n)
  | .string _ _ s => .ok (.string s)
  | .array _ _ items ending => do
    let js ← itemsToJson items
    Decoder.stopAtFlaw ending.listFlaw?
    pure (.array js)
  | .object _ _ members ending => do
    let ms ← membersToJson members []
    Decoder.stopAtFlaw ending.objectFlaw?
    pure (.object ms)
  | .broken _ _ reading _ => .error reading
termination_by structural o => o

def itemsToJson : List Outline → Except Flaw (List Json)
  | [] => .ok []
  | o :: os => do
    let j ← o.toJson
    let js ← itemsToJson os
    pure (j :: js)
termination_by structural os => os

def membersToJson : List (Member Outline) → List (String × Json) →
    Except Flaw (List (String × Json))
  | [], done => .ok done
  | ⟨key, _, _, o, _⟩ :: ms, done => do
    let key ← key
    let j ← o.toJson
    membersToJson ms (setMember key j done)
termination_by structural ms => ms
end

end Targeting.Json

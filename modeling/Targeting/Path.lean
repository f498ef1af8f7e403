import Targeting.Json.Decoder
import Targeting.Value.Basic
/-!
# Paths

A path names a value inside a document by the keys that lead to it. It is
written with dots between the keys, and there is no way to write a dot within a
key or a place in an array. The root path has no keys and names the document
itself; it is written as the empty text, which read as a path is one empty key.

A path is encoded as the text that writes it, and every text is decoded as the
path that it writes.
-/

namespace Targeting

namespace Path

/-- The pieces between the dots, at least one. -/
def splitAtDots : List Char → List (List Char)
  | [] => [[]]
  | c :: rest =>
    if c = '.' then [] :: splitAtDots rest
    else match splitAtDots rest with
      | piece :: pieces => (c :: piece) :: pieces
      | [] => [[c]]

/-- The keys that a text writes. -/
def keysOf (text : String) : List String := (splitAtDots text.toList).map String.ofList

end Path

/-- A path has its keys ready, and the text that writes them. -/
structure Path where
  keys : List String
  text : String
  /-- The keys are those of the text, or there are none. -/
  written : keys = Path.keysOf text ∨ keys = [] ∧ text = ""
deriving DecidableEq, Repr

namespace Path

/-- The path that a text writes; every text writes one. -/
def ofText (text : String) : Path := ⟨keysOf text, text, .inl rfl⟩

/-- The path to the document itself. -/
def root : Path := ⟨[], "", .inr ⟨rfl, rfl⟩⟩

def depth (p : Path) : Nat := p.keys.length

/-! ## What paths lead to -/

/-- The value that a list of keys leads to from a value. -/
def follow : List String → Value → Option Value
  | [], v => some v
  | key :: keys, .object fields => (fields.lookup key).bind (follow keys)
  | _ :: _, _ => none

/-- The value that a path names in a document, absent if a key is missing or
something other than an object is in the way. -/
def resolve (p : Path) (document : Value) : Option Value := follow p.keys document

/-! ## Paths and JSON -/

open Json (Decoder)

def toJson (p : Path) : Json := .string p.text

def decoder : Decoder Path := fun o => ofText <$> Decoder.string o

/-- Reads a path from a tree. -/
def ofJson (j : Json) : Except Json.Error Path := Json.decodeTree decoder j

end Path

end Targeting

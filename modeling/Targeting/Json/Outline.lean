import Targeting.Json.Basic
/-!
# Outlines of JSON texts

An outline is what is written in a text, value by value, each with the number of
bytes before it, up to the first place where the text stops being JSON. A
decoder walks an outline in the order of the text and stops at the first thing
that it cannot use, so of several faults it meets the one a reader of the text
meets first.

A value can be faulty only for a decoder that wants it: half of a surrogate
pair, a number out of range, or containers nested too deep do not keep the rest
of the text from being read. Such a value is `broken` with nothing to stop a
decoder that passes over it.
-/

namespace Targeting.Json

/-- How a list or an object goes on after its last entry. -/
inductive Ending (α : Type) where
  /-- The closing bracket; what has been read after it. -/
  | closed (after : Nat)
  /-- The text ends where a comma or the closing bracket is due. -/
  | atEnd (offset : Nat)
  /-- The text ends after a comma. -/
  | atEndAfterComma (offset : Nat)
  /-- A closing bracket follows a comma. -/
  | commaThenClose (offset : Nat)
  /-- Something else is where a comma or the closing bracket is due. -/
  | noComma (offset : Nat)
  /-- Something other than a string is where a key is due. -/
  | noKey (offset : Nat) (found : α)
  /-- A key that cannot be read, for a decoder that reads and one that passes. -/
  | brokenKey (reading passing : Flaw)

/-- A member of an object: its key, unless that cannot be read, what has been
read after the key, what has been read when the key is refused, the value, and
what has been read after the value. -/
structure Member (α : Type) where
  key : Except Flaw String
  keyEnd : Nat
  refused : Nat
  value : α
  next : Nat

inductive Outline where
  | null (start stop : Nat)
  | bool (start stop : Nat) (b : Bool)
  | number (start stop : Nat) (n : JsonNumber)
  | string (start stop : Nat) (s : String)
  /-- `refused` is what a reader has read that will have no array here. -/
  | array (start refused : Nat) (items : List Outline) (ending : Ending Outline)
  /-- `refused` is what a reader has read that will have no object here. -/
  | object (start refused : Nat) (members : List (Member Outline)) (ending : Ending Outline)
  /-- Not a value, or not one that can be read, with the character it begins
  with. -/
  | broken (start : Nat) (first : Option Char) (reading : Flaw) (passing : Option Flaw)

namespace Outline

def start : Outline → Nat
  | null start _ | bool start _ _ | number start _ _ | string start _ _
  | array start _ _ _ | object start _ _ _ | broken start _ _ _ => start

end Outline

/-! ## Endings -/

namespace Ending

variable {α : Type}

/-- What stops a reader of an array that wants all its items. -/
def listFlaw? : Ending α → Option Flaw
  | .closed _ => none
  | .atEnd i => some ⟨.endInList, i⟩
  | .atEndAfterComma i => some ⟨.endInValue, i⟩
  | .commaThenClose i => some ⟨.trailingComma, i + 1⟩
  | .noComma i => some ⟨.expectedListCommaOrEnd, i + 1⟩
  | .noKey i _ => some ⟨.expectedListCommaOrEnd, i + 1⟩
  | .brokenKey reading _ => some reading

/-- What stops a reader of an array that wants no more items. -/
def surplusFlaw? : Ending α → Option Flaw
  | .closed _ => none
  | .atEnd i => some ⟨.endInList, i⟩
  | .atEndAfterComma i => some ⟨.trailingCharacters, i⟩
  | .commaThenClose i => some ⟨.trailingComma, i + 1⟩
  | .noComma i | .noKey i _ => some ⟨.trailingCharacters, i + 1⟩
  | .brokenKey reading _ => some reading

/-- What stops a reader of an object that wants all its members. -/
def objectFlaw? : Ending α → Option Flaw
  | .closed _ => none
  | .atEnd i => some ⟨.endInObject, i⟩
  | .atEndAfterComma i => some ⟨.endInValue, i⟩
  | .commaThenClose i => some ⟨.trailingComma, i + 1⟩
  | .noComma i => some ⟨.expectedObjectCommaOrEnd, i + 1⟩
  | .noKey i _ => some ⟨.keyNotString, i + 1⟩
  | .brokenKey reading _ => some reading

/-- What stops a reader that passes over an array. -/
def passedListFlaw? : Ending α → Option Flaw
  | .commaThenClose i => some ⟨.expectedValue, i + 1⟩
  | ending => ending.listFlaw?

/-- What stops a reader that passes over an object. -/
def passedObjectFlaw? : Ending α → Option Flaw
  | .atEndAfterComma i => some ⟨.endInObject, i⟩
  | .commaThenClose i => some ⟨.keyNotString, i + 1⟩
  | .brokenKey _ passing => some passing
  | ending => ending.objectFlaw?

/-- What has been read after the closing bracket, or 0. -/
def after : Ending α → Nat
  | .closed after => after
  | _ => 0

end Ending

/-! ## Passing over a value -/

mutual
/-- What stops a decoder that passes over a value. -/
def Outline.passingFlaw? : Outline → Option Flaw
  | .null .. | .bool .. | .number .. | .string .. => none
  | .array _ _ items ending => (firstPassingFlaw? items).or ending.passedListFlaw?
  | .object _ _ members ending => (firstMemberFlaw? members).or ending.passedObjectFlaw?
  | .broken _ _ _ passing => passing
termination_by structural o => o

def firstPassingFlaw? : List Outline → Option Flaw
  | [] => none
  | o :: os => o.passingFlaw?.or (firstPassingFlaw? os)
termination_by structural os => os

def firstMemberFlaw? : List (Member Outline) → Option Flaw
  | [] => none
  | ⟨_, _, _, o, _⟩ :: ms => o.passingFlaw?.or (firstMemberFlaw? ms)
termination_by structural ms => ms
end

end Targeting.Json

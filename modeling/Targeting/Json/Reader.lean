import Targeting.Json.Outline
import Targeting.Json.Number
import Targeting.Unicode.CodePointTable
/-!
# Reading JSON texts

`Outline.ofText` outlines a text. A reader keeps what is left of the text and
how many bytes it has read, and stops at the first place where the text is not
JSON. `room` is how many containers may still be opened one inside another; one
too many can be passed over but not read.
-/

namespace Targeting.Json

/-- What is left of a text, and how many bytes were read before it. -/
structure Cursor where
  rest : List Char
  offset : Nat

namespace Cursor

def skipBlanks (c : Cursor) : Cursor :=
  go c.rest c.offset
where
  go : List Char → Nat → Cursor
    | [], i => ⟨[], i⟩
    | x :: xs, i =>
      if x = ' ' ∨ x = '\n' ∨ x = '\t' ∨ x = '\r' then go xs (i + 1) else ⟨x :: xs, i⟩

/-- Passes one character. -/
def skip (c : Cursor) : Cursor :=
  match c.rest with
  | [] => c
  | x :: xs => ⟨xs, c.offset + x.utf8Size⟩

def bytesLeft (c : Cursor) : Nat := (String.ofList c.rest).utf8ByteSize

end Cursor

/-! ## Literals and numbers -/

/-- Reads the letters of a literal. -/
def readLiteral : List Char → Cursor → Except Flaw Cursor
  | [], c => .ok c
  | w :: ws, c =>
    match c.rest with
    | [] => .error ⟨.endInValue, c.offset⟩
    | x :: xs =>
      if x = w then readLiteral ws ⟨xs, c.offset + 1⟩
      else .error ⟨.expectedLiteral, c.offset + 1⟩

def digit? (c : Char) : Option Nat :=
  if '0' ≤ c ∧ c ≤ '9' then some (c.toNat - 48) else none

/-- The digits at the head of a text. -/
def takeDigits (c : Cursor) : List Nat × Cursor :=
  go c.rest c.offset
where
  go : List Char → Nat → List Nat × Cursor
    | [], i => ([], ⟨[], i⟩)
    | x :: xs, i =>
      match digit? x with
      | some d => let r := go xs (i + 1); (d :: r.1, r.2)
      | none => ([], ⟨x :: xs, i⟩)

/-- What has been read of a value and where the text goes on, if it does. -/
abbrev Reading := Outline × Option Cursor

/-- A value at which the text stops being JSON for every reader. -/
def stopAt (start : Nat) (first : Option Char) (problem : Problem) (offset : Nat) : Reading :=
  (.broken start first ⟨problem, offset⟩ (some ⟨problem, offset⟩), none)

/-- A number that breaks off: a reader that passes over it only sees that it is
not a number. -/
def stopInNumber (start : Nat) (c : Cursor) (seen : Nat) : Reading :=
  match c.rest with
  | [] => (.broken start '0' ⟨.endInValue, c.offset⟩ (some ⟨.invalidNumber, c.offset⟩), none)
  | _ :: _ => stopAt start '0' .invalidNumber (c.offset + seen)

/-- A complete number. `exponentStart` is what was read before the digits of the
exponent. -/
def finishNumber (start exponentStart : Nat) (t : NumberText) (c : Cursor) : Reading :=
  match t.value with
  | .ok n => (.number start c.offset n, some c)
  | .error none => (.broken start '0' ⟨.numberOutOfRange, c.offset⟩ none, some c)
  | .error (some count) =>
    (.broken start '0' ⟨.numberOutOfRange, exponentStart + count⟩ none, some c)

/-- Reads the exponent of a number, if it has one. -/
def readExponentPart (start : Nat) (negative : Bool) (whole : List Nat)
    (fraction : Option (List Nat)) (c : Cursor) : Reading :=
  match c.rest with
  | x :: _ =>
    if x = 'e' ∨ x = 'E' then
      let c := c.skip
      let (down, c) := match c.rest with
        | '+' :: _ => (false, c.skip)
        | '-' :: _ => (true, c.skip)
        | _ => (false, c)
      match takeDigits c with
      | ([], _) => stopInNumber start c 1
      | (digits, after) =>
        finishNumber start c.offset ⟨negative, whole, fraction, some (down, digits)⟩ after
    else finishNumber start c.offset ⟨negative, whole, fraction, none⟩ c
  | [] => finishNumber start c.offset ⟨negative, whole, fraction, none⟩ c

/-- Reads what follows the whole part of a number. -/
def readFractionPart (start : Nat) (negative : Bool) (whole : List Nat) (c : Cursor) : Reading :=
  match c.rest with
  | '.' :: _ =>
    match takeDigits c.skip with
    | ([], after) => stopInNumber start after 1
    | (digits, after) => readExponentPart start negative whole (some digits) after
  | _ => readExponentPart start negative whole none c

/-- Reads a number after its sign. -/
def readNumber (start : Nat) (negative : Bool) (c : Cursor) : Reading :=
  match takeDigits c with
  | ([], _) => stopInNumber start c 1
  | (0 :: _ :: _, _) => stopAt start '0' .invalidNumber (c.offset + 2)
  | (digits, after) => readFractionPart start negative digits after

/-! ## Strings -/

/-- A string that was read, unless it has half of a surrogate pair, or where the
text stops being JSON inside it. -/
inductive StringReading where
  | complete (text : Except Flaw String) (after : Cursor)
  | stopped (reading passing : Flaw)

/-- The code unit that four digits in base sixteen write. -/
def readCodeUnit (c : Cursor) : Except Flaw (Nat × Cursor) :=
  let digit? (x : Char) : Option Nat := Unicode.hexDigit? x.toLower
  match c.rest.take 4 |>.mapM digit? with
  | some [w, x, y, z] => .ok (((w * 16 + x) * 16 + y) * 16 + z, ⟨c.rest.drop 4, c.offset + 4⟩)
  | _ =>
    if c.bytesLeft < 4 then .error ⟨.endInString, c.offset + c.bytesLeft⟩
    else .error ⟨.invalidEscape, c.offset + 4⟩

/-- The second half of a surrogate pair whose first half is `lead`. -/
def readTrail (lead : Nat) (c : Cursor) : Except Flaw (Char × Cursor) :=
  match c.rest with
  | [] => .error ⟨.endInString, c.offset⟩
  | '\\' :: 'u' :: rest => do
    let (trail, after) ← readCodeUnit ⟨rest, c.offset + 2⟩
    if 0xdc00 ≤ trail ∧ trail ≤ 0xdfff then
      pure (Char.ofNat ((lead - 0xd800) * 0x400 + (trail - 0xdc00) + 0x10000), after)
    else throw ⟨.loneSurrogate, after.offset⟩
  | ['\\'] => .error ⟨.endInString, c.offset + 1⟩
  | '\\' :: _ => .error ⟨.unfinishedSurrogatePair, c.offset + 2⟩
  | _ :: _ => .error ⟨.unfinishedSurrogatePair, c.offset + 1⟩

/-- The character that `\u` and what follows write. -/
def readCodePoint (c : Cursor) : Except Flaw (Char × Cursor) := do
  let (unit, after) ← readCodeUnit c
  if 0xdc00 ≤ unit ∧ unit ≤ 0xdfff then throw ⟨.loneSurrogate, after.offset⟩
  else if 0xd800 ≤ unit ∧ unit ≤ 0xdbff then readTrail unit after
  else pure (Char.ofNat unit, after)

/-- The character that a letter after a backslash stands for. -/
def escape? : Char → Option Char
  | '"' => some '"'
  | '\\' => some '\\'
  | '/' => some '/'
  | 'b' => some '\x08'
  | 'f' => some '\x0c'
  | 'n' => some '\n'
  | 'r' => some '\r'
  | 't' => some '\t'
  | _ => none

/-- Reads a string after its opening quote. `text` is what it holds so far, the
last character first, or why it cannot be read. -/
def readString (fuel : Nat) (text : Except Flaw (List Char)) (c : Cursor) : StringReading :=
  let stop (reading passing : Flaw) : StringReading :=
    match text with
    | .ok _ => .stopped reading passing
    | .error flaw => .stopped flaw passing
  match fuel, c.rest with
  | 0, _ | _, [] => stop ⟨.endInString, c.offset⟩ ⟨.endInString, c.offset⟩
  | _ + 1, '"' :: rest =>
    .complete (text.map fun cs => String.ofList cs.reverse) ⟨rest, c.offset + 1⟩
  | _, ['\\'] => stop ⟨.endInString, c.offset + 1⟩ ⟨.endInString, c.offset + 1⟩
  | fuel + 1, '\\' :: 'u' :: rest =>
    let escaped : Cursor := ⟨rest, c.offset + 2⟩
    match readCodeUnit escaped with
    | .error passing =>
      match readCodePoint escaped with
      | .error reading => stop reading passing
      | .ok _ => stop passing passing
    | .ok (_, afterUnit) =>
      match text, readCodePoint escaped with
      | .ok cs, .ok (x, after) => readString fuel (.ok (x :: cs)) after
      | .ok _, .error flaw => readString fuel (.error flaw) afterUnit
      | .error flaw, _ => readString fuel (.error flaw) afterUnit
  | fuel + 1, '\\' :: x :: rest =>
    match escape? x with
    | some y => readString fuel (text.map (y :: ·)) ⟨rest, c.offset + 2⟩
    | none => stop ⟨.invalidEscape, c.offset + 2⟩ ⟨.invalidEscape, c.offset + 2⟩
  | fuel + 1, x :: rest =>
    if x.toNat < 0x20 then stop ⟨.controlCharacter, c.offset + 1⟩ ⟨.controlCharacter, c.offset⟩
    else readString fuel (text.map (x :: ·)) ⟨rest, c.offset + x.utf8Size⟩

/-- Reads a string after its opening quote. -/
def readQuoted (c : Cursor) : StringReading := readString (c.rest.length + 1) (.ok []) c

/-! ## Values -/

/-- Reads a literal that stands for a value. -/
def readWord (letters : List Char) (value : Nat → Outline) (c : Cursor) : Reading :=
  match readLiteral letters c with
  | .ok after => (value after.offset, some after)
  | .error flaw => (.broken c.offset letters.head? flaw (some flaw), none)

/-- A container that is opened where no more may be. -/
def tooDeep (start : Nat) (first : Char) (contents : Outline) : Outline :=
  .broken start first ⟨.tooDeep, start + 1⟩ contents.passingFlaw?

/-- What has been read when an array is refused: its opening bracket, and the
closing bracket or the comma if one comes next. -/
def refusedArray (c : Cursor) : Nat :=
  match c.rest with
  | ']' :: _ => c.offset + 1
  | ',' :: _ => c.skip.skipBlanks.offset
  | _ => c.offset

/-- What has been read when an object or a key is refused: the closing brace
too, if it comes next. -/
def refusedObject (c : Cursor) : Nat :=
  match c.rest with
  | '\x7d' :: _ => c.offset + 1
  | _ => c.offset

/-- The members or items read, how they end, and where the text goes on. -/
abbrev Contents (α : Type) := List α × Ending Outline × Option Cursor

mutual
/-- Reads a value, with blanks before it. -/
def readValue (room : Nat) : Nat → Cursor → Reading
  | 0, c => stopAt c.offset none .endInValue c.offset
  | fuel + 1, c =>
    let c := c.skipBlanks
    let start := c.offset
    match c.rest with
    | [] => stopAt start none .endInValue start
    | 'n' :: _ => readWord ['n', 'u', 'l', 'l'] (.null start) c
    | 't' :: _ => readWord ['t', 'r', 'u', 'e'] (.bool start · true) c
    | 'f' :: _ => readWord ['f', 'a', 'l', 's', 'e'] (.bool start · false) c
    | '-' :: _ => readNumber start true c.skip
    | '"' :: _ =>
      match readQuoted c.skip with
      | .complete (.ok s) after => (.string start after.offset s, some after)
      | .complete (.error flaw) after => (.broken start '"' flaw none, some after)
      | .stopped reading passing => (.broken start '"' reading (some passing), none)
    | '[' :: _ =>
      let inside := c.skip.skipBlanks
      let (items, ending, after) := match inside.rest with
        | [] => ([], .atEnd inside.offset, none)
        | ']' :: _ => ([], .closed (inside.offset + 1), some inside.skip)
        | _ => readItems (room - 1) fuel inside
      let o := Outline.array start (refusedArray inside) items ending
      (if room = 0 then tooDeep start '[' o else o, after)
    | '\x7b' :: _ =>
      let inside := c.skip.skipBlanks
      let (members, ending, after) := match inside.rest with
        | [] => ([], .atEnd inside.offset, none)
        | '\x7d' :: _ => ([], .closed (inside.offset + 1), some inside.skip)
        | _ => readMembers (room - 1) fuel inside
      let o := Outline.object start (refusedObject inside) members ending
      (if room = 0 then tooDeep start '\x7b' o else o, after)
    | x :: _ =>
      if (digit? x).isSome then readNumber start false c
      else stopAt start x .expectedValue (start + 1)

/-- Reads the items of an array from one on. -/
def readItems (room : Nat) : Nat → Cursor → Contents Outline
  | 0, c => ([], .atEnd c.offset, none)
  | fuel + 1, c =>
    match readValue room fuel c with
    | (item, none) => ([item], .atEnd c.offset, none)
    | (item, some after) =>
      let after := after.skipBlanks
      match after.rest with
      | [] => ([item], .atEnd after.offset, none)
      | ']' :: _ => ([item], .closed (after.offset + 1), some after.skip)
      | ',' :: _ =>
        let next := after.skip.skipBlanks
        match next.rest with
        | [] => ([item], .atEndAfterComma next.offset, none)
        | ']' :: _ => ([item], .commaThenClose next.offset, none)
        | _ =>
          let (items, ending, c) := readItems room fuel next
          (item :: items, ending, c)
      | _ => ([item], .noComma after.offset, none)

/-- Reads the members of an object from a key on. -/
def readMembers (room : Nat) : Nat → Cursor → Contents (Member Outline)
  | 0, c => ([], .atEnd c.offset, none)
  | fuel + 1, c =>
    match c.rest with
    | '"' :: _ =>
      match readQuoted c.skip with
      | .stopped reading passing => ([], .brokenKey reading passing, none)
      | .complete key after =>
        let keyEnd := after.offset
        let after := after.skipBlanks
        let refused := refusedObject after
        match after.rest with
        | ':' :: _ =>
          match readValue room fuel after.skip with
          | (value, none) =>
            ([⟨key, keyEnd, refused, value, after.offset⟩], .atEnd after.offset, none)
          | (value, some after) =>
            let after := after.skipBlanks
            let member : Member Outline := ⟨key, keyEnd, refused, value, after.offset⟩
            match after.rest with
            | [] => ([member], .atEnd after.offset, none)
            | '\x7d' :: _ => ([member], .closed (after.offset + 1), some after.skip)
            | ',' :: _ =>
              let next := after.skip.skipBlanks
              match next.rest with
              | [] => ([member], .atEndAfterComma next.offset, none)
              | '\x7d' :: _ => ([member], .commaThenClose next.offset, none)
              | _ =>
                let (members, ending, c) := readMembers room fuel next
                (member :: members, ending, c)
            | _ => ([member], .noComma after.offset, none)
        | [] =>
          let flaw : Flaw := ⟨.endInObject, after.offset⟩
          let value := .broken after.offset none flaw (some flaw)
          ([⟨key, keyEnd, refused, value, after.offset⟩], .atEnd after.offset, none)
        | _ :: _ =>
          let flaw : Flaw := ⟨.expectedColon, after.offset + 1⟩
          let value := .broken after.offset none flaw (some flaw)
          ([⟨key, keyEnd, refused, value, after.offset⟩], .atEnd after.offset, none)
    | _ => ([], .noKey c.offset (readValue room fuel c).1, none)
end

/-! ## Texts -/

/-- How many containers of a text may be open at once. -/
def depthLimit : Nat := 127

/-- The outline of a text with `room` for open containers, and how many bytes
come before whatever follows its value. -/
def Outline.ofText (room : Nat) (text : String) : Outline × Option Nat :=
  let cs := text.toList
  let (o, after) := readValue room (2 * cs.length + 2) ⟨cs, 0⟩
  match after with
  | none => (o, none)
  | some c =>
    let c := c.skipBlanks
    (o, if c.rest.isEmpty then none else some c.offset)

end Targeting.Json

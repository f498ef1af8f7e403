import Targeting.Decimal.Layout
import Targeting.Text
/-!
# JSON trees and what can be wrong with JSON

A tree is a JSON value that has been read. A `Problem` is one thing that stops the
reading of a text or the decoding of a tree. An `Error` is a problem with the place in
the text at which it was met; a tree that was already read has no places.
-/

namespace Targeting

/-! ## Trees -/

/-- Numbers written as integers that fit in 64 bits stay integers, and all others are
binary64 numbers. -/
inductive JsonNumber where
  | integer (n : Int)
  | float (x : Binary64)
deriving DecidableEq, Repr

inductive Json where
  | null
  | bool (b : Bool)
  | number (n : JsonNumber)
  | string (s : String)
  | array (items : List Json)
  | object (members : List (String × Json))

namespace Json

/-! ## What was found -/

/-- A value found where another was expected, as far as a message shows it. -/
inductive Found where
  | null
  | bool (b : Bool)
  | number (n : JsonNumber)
  | string (s : String)
  | sequence
  | map
deriving DecidableEq, Repr

/-- Numbers in messages: sizes from `10 ^ -4` up to below `10 ^ 16` are written
out, a whole one with `.0`, and an exponent has two digits at least. -/
def messageLayout : Layout where
  fixedFrom := -4
  fixedBelow := 16
  pointZero := true
  exponentWidth := 2
  signedZero := true

def Found.text : Found → String
  | .null => "null"
  | .bool b => "boolean `" ++ (if b then "true" else "false") ++ "`"
  | .number (.integer n) => "integer `" ++ toString n ++ "`"
  | .number (.float x) => "floating point `" ++ messageLayout.write x ++ "`"
  | .string s => "string " ++ Text.quoted s
  | .sequence => "sequence"
  | .map => "map"

/-! ## Problems -/

inductive Problem where
  -- the text ends too soon
  | endInValue
  | endInList
  | endInObject
  | endInString
  -- the text is not JSON
  | expectedValue
  | expectedLiteral
  | expectedColon
  | expectedListCommaOrEnd
  | expectedObjectCommaOrEnd
  | keyNotString
  | trailingComma
  | trailingCharacters
  | invalidNumber
  | numberOutOfRange
  | invalidEscape
  | loneSurrogate
  | unfinishedSurrogatePair
  | controlCharacter
  | tooDeep
  -- the text is JSON of another shape
  | invalidType (found : Found) (expected : String)
  | invalidValue (found : Found) (expected : String)
  | invalidLength (length : Nat) (expected : String)
  | unknownVariant (name : String) (expected : List String)
  | missingField (name : String)
  | duplicateField (name : String)
deriving DecidableEq, Repr

/-- Whether the text ended too soon, is not JSON, or has another shape. -/
inductive Category where
  | truncated
  | malformed
  | mismatched
deriving DecidableEq, Repr

namespace Problem

def category : Problem → Category
  | .endInValue | .endInList | .endInObject | .endInString => .truncated
  | .invalidType .. | .invalidValue .. | .invalidLength .. | .unknownVariant ..
  | .missingField _ | .duplicateField _ => .mismatched
  | _ => .malformed

/-- Names in backticks, with `or` between two and commas between more. -/
def oneOf : List String → String
  | [] => "there are no variants"
  | [a] => "expected `" ++ a ++ "`"
  | [a, b] => "expected `" ++ a ++ "` or `" ++ b ++ "`"
  | names => "expected one of " ++ ", ".intercalate (names.map fun n => "`" ++ n ++ "`")

def message : Problem → String
  | .endInValue => "EOF while parsing a value"
  | .endInList => "EOF while parsing a list"
  | .endInObject => "EOF while parsing an object"
  | .endInString => "EOF while parsing a string"
  | .expectedValue => "expected value"
  | .expectedLiteral => "expected ident"
  | .expectedColon => "expected `:`"
  | .expectedListCommaOrEnd => "expected `,` or `]`"
  | .expectedObjectCommaOrEnd => "expected `,` or `\x7d`"
  | .keyNotString => "key must be a string"
  | .trailingComma => "trailing comma"
  | .trailingCharacters => "trailing characters"
  | .invalidNumber => "invalid number"
  | .numberOutOfRange => "number out of range"
  | .invalidEscape => "invalid escape"
  | .loneSurrogate => "lone leading surrogate in hex escape"
  | .unfinishedSurrogatePair => "unexpected end of hex escape"
  | .controlCharacter => "control character (\\u0000-\\u001F) found while parsing a string"
  | .tooDeep => "recursion limit exceeded"
  | .invalidType found expected => "invalid type: " ++ found.text ++ ", expected " ++ expected
  | .invalidValue found expected => "invalid value: " ++ found.text ++ ", expected " ++ expected
  | .invalidLength n expected => "invalid length " ++ toString n ++ ", expected " ++ expected
  | .unknownVariant name expected => "unknown variant `" ++ name ++ "`, " ++ oneOf expected
  | .missingField name => "missing field `" ++ name ++ "`"
  | .duplicateField name => "duplicate field `" ++ name ++ "`"

end Problem

/-! ## Places -/

/-- A line, counted from 1, and how many bytes of it have been read. -/
structure Position where
  line : Nat
  column : Nat
deriving DecidableEq, Repr

/-- The position after the first `offset` bytes of a text. -/
def Position.ofOffset (text : String) (offset : Nat) : Position :=
  let rec go (line lineStart place : Nat) : List Char → Position
    | [] => ⟨line, offset - lineStart⟩
    | c :: rest =>
      let next := place + c.utf8Size
      if offset < next then ⟨line, offset - lineStart⟩
      else if c = '\n' then go (line + 1) next next rest
      else go line lineStart next rest
  go 1 0 0 text.toList

/-- A problem with the number of bytes read before it was met. -/
structure Flaw where
  problem : Problem
  offset : Nat
deriving DecidableEq, Repr

structure Error where
  problem : Problem
  position : Option Position
deriving DecidableEq, Repr

namespace Error

def category (e : Error) : Category := e.problem.category

def message (e : Error) : String :=
  match e.position with
  | some p => e.problem.message ++ " at line " ++ toString p.line ++ " column " ++ toString p.column
  | none => e.problem.message

end Error

end Json

end Targeting

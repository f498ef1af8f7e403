/-!
# Patterns

A pattern as it is written: literals, classes of characters, assertions on a
place in the text, repetitions, groups and alternatives, and flags that change
what follows them.
-/

namespace Targeting

namespace Pattern

/-! ## Flags -/

inductive Flag where
  | caseInsensitive
  | multiLine
  | dotMatchesNewline
  | swapGreed
  | unicode
  | carriageReturn
  | ignoreWhitespace
deriving DecidableEq, Repr

/-- A flag, or the sign after which flags are turned off. -/
inductive FlagItem where
  | flag (f : Flag)
  | negation
deriving DecidableEq, Repr

/-! ## Characters -/

/-- A character that stands for itself. `isByte` is whether it was written as
two digits in base sixteen, which without the Unicode flag write a byte. -/
structure Literal where
  char : Char
  isByte : Bool := false
deriving DecidableEq, Repr

inductive PerlClass where
  | digit
  | space
  | word
deriving DecidableEq, Repr

inductive PosixClass where
  | alnum
  | alpha
  | ascii
  | blank
  | cntrl
  | digit
  | graph
  | lower
  | print
  | punct
  | space
  | upper
  | word
  | xdigit
deriving DecidableEq, Repr

/-- A property that is asked for by its name, or by a name and a value. -/
inductive PropertyQuery where
  | named (name : String)
  | valued (name value : String)
deriving DecidableEq, Repr

inductive ClassItem where
  | literal (c : Literal)
  | range (first last : Literal)
  | perl (negated : Bool) (c : PerlClass)
  | posix (negated : Bool) (c : PosixClass)
  | property (negated : Bool) (q : PropertyQuery)
  | nested (negated : Bool) (item : ClassItem)
  | union (items : List ClassItem)
  | intersection (a b : ClassItem)
  | difference (a b : ClassItem)
  | symmetricDifference (a b : ClassItem)

/-! ## Places -/

/-- What a place in a text can be asked to be. The words `start` and `finish` are
sides of a word, and the halves look at one side of the place only. -/
inductive Assertion where
  | lineStart
  | lineEnd
  | textStart
  | textEnd
  | wordBoundary
  | notWordBoundary
  | wordStart
  | wordEnd
  | wordStartHalf
  | wordEndHalf
deriving DecidableEq, Repr

end Pattern

open Pattern in
inductive Pattern where
  | flags (items : List FlagItem)
  | literal (c : Literal)
  | dot
  | assertion (a : Assertion)
  | perl (negated : Bool) (c : PerlClass)
  | property (negated : Bool) (q : PropertyQuery)
  | charClass (negated : Bool) (item : ClassItem)
  | repeated (least : Nat) (most : Option Nat) (p : Pattern)
  | group (flags : List FlagItem) (p : Pattern)
  | concat (ps : List Pattern)
  | alternatives (ps : List Pattern)

end Targeting

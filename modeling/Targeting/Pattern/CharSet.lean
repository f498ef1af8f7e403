import Targeting.Unicode.GeneralCategory
import Targeting.Unicode.Script
import Targeting.Unicode.CaseFolding
import Targeting.Unicode.Property
/-!
# Sets of characters

What a class of a pattern stands for, put together from ranges and Unicode
properties.
-/

namespace Targeting

open Unicode

inductive CharSet where
  | range (first last : Char)
  | category (categories : List GeneralCategory)
  | script (abbreviation : String)
  | table (s : CodePointSet)
  | union (sets : List CharSet)
  | intersection (a b : CharSet)
  | difference (a b : CharSet)
  | complement (s : CharSet)
  /-- All that differ from a member only in case. -/
  | anyCase (s : CharSet)
  /-- All that differ from a member only in the case of an ASCII letter. -/
  | anyAsciiCase (s : CharSet)

namespace CharSet

mutual
def contains : CharSet → Char → Bool
  | .range first last, c => first ≤ c && c ≤ last
  | .category categories, c => categories.contains (generalCategory c)
  | .script abbreviation, c => Unicode.script c == abbreviation
  | .table s, c => s.contains c
  | .union sets, c => someContains sets c
  | .intersection a b, c => a.contains c && b.contains c
  | .difference a b, c => a.contains c && !b.contains c
  | .complement s, c => !s.contains c
  | .anyCase s, c => (caseOrbit c).any s.contains
  | .anyAsciiCase s, c => s.contains c || s.contains c.toLower || s.contains c.toUpper
termination_by structural s => s

def someContains : List CharSet → Char → Bool
  | [], _ => false
  | s :: sets, c => s.contains c || someContains sets c
termination_by structural sets => sets
end

def single (c : Char) : CharSet := .range c c

def all : CharSet := .complement (.union [])

def ofRanges (ranges : List (Char × Char)) : CharSet :=
  .union (ranges.map fun r => .range r.1 r.2)

/-! ## The classes with a letter of their own -/

def digits : CharSet := .category [.decimalNumber]

def spaces : CharSet := .table Property.whiteSpace

/-- What words are made of: letters, marks, decimal digits, connecting
punctuation and the two joiners. -/
def wordChars : CharSet :=
  .union [.table Property.alphabetic,
    .category [.nonspacingMark, .spacingMark, .enclosingMark, .decimalNumber,
      .connectorPunctuation],
    .table Property.joinControl]

def asciiDigits : CharSet := .range '0' '9'

def asciiSpaces : CharSet := ofRanges [('\t', '\r'), (' ', ' ')]

def asciiWordChars : CharSet := ofRanges [('0', '9'), ('A', 'Z'), ('_', '_'), ('a', 'z')]

end CharSet

end Targeting

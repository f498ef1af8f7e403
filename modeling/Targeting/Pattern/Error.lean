/-!
# What can be wrong with a pattern
-/

namespace Targeting

inductive PatternError where
  -- groups
  | unclosedGroup
  | unopenedGroup
  | emptyGroupName
  | invalidGroupName
  | unclosedGroupName
  | duplicateGroupName
  | unsupportedLookAround
  | unsupportedBackreference
  -- flags
  | unrecognizedFlag
  | duplicateFlag
  | repeatedNegation
  | danglingNegation
  | endInFlags
  -- repetition
  | nothingToRepeat
  | unclosedCount
  | invalidDecimal
  | emptyDecimal
  | invalidCountRange
  -- classes
  | unclosedClass
  | invalidClassRange
  | invalidRangeBoundary
  | invalidClassEscape
  -- escapes
  | unrecognizedEscape
  | incompleteEscape
  | emptyHex
  | invalidHexDigit
  | invalidHex
  | invalidProperty
  | unclosedWordBoundary
  | unclosedWordBoundaryOrCount
  | unknownWordBoundary
  -- meaning
  | unknownProperty
  | unknownPropertyValue
  | unicodeNotAllowed
  | matchesInvalidText
deriving DecidableEq, Repr

def PatternError.message : PatternError → String
  | .unclosedGroup => "unclosed group"
  | .unopenedGroup => "unopened group"
  | .emptyGroupName => "empty capture group name"
  | .invalidGroupName => "invalid capture group character"
  | .unclosedGroupName => "unclosed capture group name"
  | .duplicateGroupName => "duplicate capture group name"
  | .unsupportedLookAround =>
    "look-around, including look-ahead and look-behind, is not supported"
  | .unsupportedBackreference => "backreferences are not supported"
  | .unrecognizedFlag => "unrecognized flag"
  | .duplicateFlag => "duplicate flag"
  | .repeatedNegation => "flag negation operator repeated"
  | .danglingNegation => "dangling flag negation operator"
  | .endInFlags => "expected flag but got end of regex"
  | .nothingToRepeat => "repetition operator missing expression"
  | .unclosedCount => "unclosed counted repetition"
  | .invalidDecimal => "decimal literal invalid"
  | .emptyDecimal => "repetition quantifier expects a valid decimal"
  | .invalidCountRange => "invalid repetition count range, the start must be <= the end"
  | .unclosedClass => "unclosed character class"
  | .invalidClassRange => "invalid character class range, the start must be <= the end"
  | .invalidRangeBoundary => "invalid range boundary, must be a literal"
  | .invalidClassEscape => "invalid escape sequence found in character class"
  | .unrecognizedEscape => "unrecognized escape sequence"
  | .incompleteEscape => "incomplete escape sequence, reached end of pattern prematurely"
  | .emptyHex => "hexadecimal literal empty"
  | .invalidHexDigit => "invalid hexadecimal digit"
  | .invalidHex => "hexadecimal literal is not a Unicode scalar value"
  | .invalidProperty => "invalid Unicode character class"
  | .unclosedWordBoundaryOrCount =>
    "found either the beginning of a special word boundary or a bounded repetition " ++
      "on a \\b with an opening brace, but no closing brace"
  | .unclosedWordBoundary =>
    "special word boundary assertion is either unclosed or contains an invalid character"
  | .unknownWordBoundary =>
    "unrecognized special word boundary assertion, " ++
      "valid choices are: start, end, start-half or end-half"
  | .unknownProperty => "Unicode property not found"
  | .unknownPropertyValue => "Unicode property value not found"
  | .unicodeNotAllowed => "Unicode not allowed here"
  | .matchesInvalidText => "pattern can match invalid UTF-8"

end Targeting

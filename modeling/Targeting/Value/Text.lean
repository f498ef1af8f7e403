import Targeting.Value.Basic
import Targeting.Decimal.Layout
/-!
# Values as text

The text that a pattern is matched against. Strings stand for themselves, and
truth values and numbers have a text; null, arrays and objects have none.

A number is written with an exponent if it is large or small. Of the others, one
that is an integer is written as that integer, and any other with all its digits.
-/

namespace Targeting

namespace Value

/-! ## The two notations -/

/-- The sign that a number is written with; a negative zero has one too. -/
def signText (x : Binary64) : List Char := if x.isNegative then ['-'] else []

/-- A finite number with all its digits, however large or small it is. -/
def writtenOut (x : Binary64) : String :=
  let d := Decimal.shortest x
  let digits := Layout.digitsOf d.digits
  String.ofList (signText x ++ Layout.fixed false digits (digits.length + d.exponent))

/-- A finite number with one digit before the point and an exponent, which has
a sign only if it is negative. -/
def plainExponentText (x : Binary64) : List Char :=
  let d := Decimal.shortest x
  let digits := Layout.digitsOf d.digits
  signText x ++ digits.take 1 ++ (if digits.length ≤ 1 then [] else '.' :: digits.drop 1) ++
    'e' :: (toString (digits.length + d.exponent - 1)).toList

/-- Puts a plus sign after the first `e`, unless a minus sign is there. -/
def signExponent (text : List Char) : List Char :=
  match text.span (· ≠ 'e') with
  | (mantissa, e :: exponent) =>
    if exponent.head? = some '-' then text else mantissa ++ e :: '+' :: exponent
  | (_, []) => text

/-! ## Texts -/

/-- The least size that is too large to be written out: `10 ^ 21`. -/
def leastLarge : Binary64 := .ofNat (Nat.pow 10 21)

/-- The least size that is not too small to be written out: `10 ^ -6`. -/
def leastWrittenOut : Binary64 := .ofRatio false 1 (Nat.pow 10 6)

/-- Whether a number is too large or too small to be written out. -/
def needsExponent (x : Binary64) : Bool :=
  !x.isZero && ((x.abs.order? leastLarge).any Ordering.isGE ||
    (x.abs.order? leastWrittenOut).any Ordering.isLT)

/-- The text of a number. Those from a millionth up to below `10 ^ 21` are written
out, a whole one without a point, and both zeros are `0`. -/
def numberText (x : Binary64) : String :=
  if x.isNaN then "NaN"
  else if x.isInfinite then (if x.isNegative then "-Infinity" else "Infinity")
  else if needsExponent x then String.ofList (signExponent (plainExponentText x))
  else match x.exactInt? with
    | some i => toString i
    | none => writtenOut x

/-- The text of a value, if it has one. -/
def text? : Value → Option String
  | .string s => some s
  | .bool b => some (if b then "true" else "false")
  | .number x => some (numberText x)
  | .null | .array _ | .object _ => none

end Value

end Targeting

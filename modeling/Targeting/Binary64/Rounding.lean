import Targeting.Binary64.Basic
/-!
# Rounding to binary64

`ofRatio` is the number nearest to a quotient of natural numbers, ties to the
even significand, infinite once the quotient is too large. Conversion from
integers, multiplication and division are exact quotients rounded once.
-/

namespace Targeting.Binary64

/-- The whole number nearest to `a / d`, a half going to the even neighbour. -/
def roundHalfEven (a d : Nat) : Nat :=
  let q := a / d
  let r := a % d
  if 2 * r < d then q
  else if d < 2 * r then q + 1
  else if q % 2 = 0 then q else q + 1

/-- How many binary places above the smallest unit `2 ^ -1074` the unit of
`q * 2 ^ -1074` lies: the significand keeps 53 bits. -/
def unitPlace (q : Nat) : Nat := q.log2 - 52

/-- The magnitude nearest to `num / den`. The significand is added to its
exponent, so that one which rounds up to `2 ^ 53` carries into the next. -/
def magnitudeOfRatio (num den : Nat) : Nat :=
  let scaled := num * Nat.pow 2 1074
  let place := unitPlace (scaled / den)
  min (place * exponentUnit + roundHalfEven scaled (den * Nat.pow 2 place)) infiniteMagnitude

/-- The number nearest to `num / den`, negated if `negative`. -/
def ofRatio (negative : Bool) (num den : Nat) : Binary64 :=
  ofMagnitude negative (magnitudeOfRatio num den)

def ofNat (n : Nat) : Binary64 := ofRatio false n 1

def ofInt (i : Int) : Binary64 := ofRatio (i < 0) i.natAbs 1

/-- A finite number's size is `num / den`. -/
def num (x : Binary64) : Nat := x.significand * Nat.pow 2 x.scale.toNat

def den (x : Binary64) : Nat := Nat.pow 2 (-x.scale).toNat

/-- The product of two finite numbers. -/
def mul (x y : Binary64) : Binary64 :=
  ofRatio (x.isNegative != y.isNegative) (x.num * y.num) (x.den * y.den)

/-- The quotient of two finite numbers, the second not zero. -/
def div (x y : Binary64) : Binary64 :=
  ofRatio (x.isNegative != y.isNegative) (x.num * y.den) (x.den * y.num)

end Targeting.Binary64

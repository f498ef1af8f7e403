/-!
# Binary64 numbers

A number is its 64 bits in the IEEE 754 binary64 format: a sign bit, eleven
bits of exponent and 52 bits of fraction. Everything here is exact arithmetic
on natural numbers and integers, so it runs the same in a proof and in a
program.

A finite number is worth `significand * 2 ^ scale`, negated if its sign bit is
set. Numbers are compared by `rank`, their place on the line: without the sign
bit the bits of a number grow with its size, so the rank is those bits, negated
for a negative number. The two zeros share rank 0, and a NaN has no place.
-/

namespace Targeting

structure Binary64 where
  bits : UInt64
deriving DecidableEq, Repr

namespace Binary64

/-! ## Fields -/

def word (x : Binary64) : Nat := x.bits.toNat

/-- What the sign bit adds to the word: `2 ^ 63`. -/
def signUnit : Nat := 0x8000000000000000

/-- What a step of the exponent adds to the word: `2 ^ 52`. -/
def exponentUnit : Nat := 0x10000000000000

def isNegative (x : Binary64) : Bool := signUnit ≤ x.word

/-- The bits without the sign. -/
def magnitude (x : Binary64) : Nat := x.word % signUnit

/-- The magnitude of the two infinities; those of the NaNs lie above. -/
def infiniteMagnitude : Nat := 2047 * exponentUnit

def isFinite (x : Binary64) : Bool := x.magnitude < infiniteMagnitude

def isInfinite (x : Binary64) : Bool := x.magnitude == infiniteMagnitude

def isNaN (x : Binary64) : Bool := infiniteMagnitude < x.magnitude

def isZero (x : Binary64) : Bool := x.magnitude == 0

def exponentField (x : Binary64) : Nat := x.magnitude / exponentUnit

def fraction (x : Binary64) : Nat := x.magnitude % exponentUnit

/-- The fraction with its leading bit, which the smallest numbers lack. -/
def significand (x : Binary64) : Nat :=
  if x.exponentField = 0 then x.fraction else exponentUnit + x.fraction

/-- The power of two that one unit of the significand stands for. -/
def scale (x : Binary64) : Int := max x.exponentField 1 - 1075

/-! ## Order -/

/-- The place of a number on the line. -/
def rank (x : Binary64) : Int := if x.isNegative then -x.magnitude else x.magnitude

/-- Equality of numbers: the zeros are equal, and a NaN equals nothing. -/
def equal (x y : Binary64) : Bool := !x.isNaN && !y.isNaN && x.rank == y.rank

/-- The order of two numbers; a NaN has none. -/
def order? (x y : Binary64) : Option Ordering :=
  if x.isNaN || y.isNaN then none else some (compare x.rank y.rank)

/-! ## Construction -/

/-- The number with the given sign and magnitude. -/
def ofMagnitude (negative : Bool) (magnitude : Nat) : Binary64 :=
  ⟨UInt64.ofNat ((if negative then signUnit else 0) + magnitude)⟩

/-- The number without its sign. -/
def abs (x : Binary64) : Binary64 := ofMagnitude false x.magnitude

def zero : Binary64 := ofMagnitude false 0

def nan : Binary64 := ofMagnitude false (infiniteMagnitude + exponentUnit / 2)

def infinity (negative : Bool) : Binary64 := ofMagnitude negative infiniteMagnitude

/-! ## Whole numbers -/

/-- The largest whole number up to which every whole number is exact:
`2 ^ 53 - 1`. -/
def maxExactInt : Nat := 0x1fffffffffffff

/-- The size of a finite number, if it is whole. -/
def wholeSize? (x : Binary64) : Option Nat :=
  if 0 ≤ x.scale then some (x.significand * Nat.pow 2 x.scale.toNat)
  else if x.significand % Nat.pow 2 (-x.scale).toNat = 0 then
    some (x.significand / Nat.pow 2 (-x.scale).toNat)
  else none

/-- The integer that a number is, if it is whole and at most `maxExactInt` in
size. -/
def exactInt? (x : Binary64) : Option Int :=
  if x.isFinite then
    match x.wholeSize? with
    | some n => if n ≤ maxExactInt then some (if x.isNegative then -n else n) else none
    | none => none
  else none

end Binary64

end Targeting

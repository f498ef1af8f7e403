import Targeting.Json.Basic
import Targeting.Binary64.Rounding
/-!
# The value of a written number

A number without a fraction or an exponent is an integer if it fits in 64 bits.
Any other is read in two steps that each round once: its digits, as many as fit
in 64 bits, make the significand, and that is multiplied or divided by the power
of ten that is left. A power beyond `10 ^ 308` is divided out in several steps.
A number too large for binary64 is out of range, and one too small is zero.
-/

namespace Targeting.Json

/-- A number as it is written: the digits before the point, those after it, and
the exponent with its sign. -/
structure NumberText where
  negative : Bool
  whole : List Nat
  fraction : Option (List Nat)
  exponent : Option (Bool × List Nat)

/-! ## Significand and power of ten -/

/-- The significand read so far and the power of ten it is to be multiplied by. -/
structure Scaled where
  significand : Nat
  power : Int

namespace Scaled

/-- Whether a digit can still be added to a significand of 64 bits. -/
def fits (significand digit : Nat) : Bool :=
  significand * 10 + digit < 0x10000000000000000

/-- Reads the digits before the point; from the first that does not fit on,
each only raises the power. -/
def whole (significand : Nat) : List Nat → Scaled
  | [] => ⟨significand, 0⟩
  | d :: ds =>
    if fits significand d then whole (significand * 10 + d) ds
    else ⟨significand, (d :: ds).length⟩

/-- Reads the digits after the point; those from the first that does not fit on
are dropped. -/
def fraction (s : Scaled) : List Nat → Scaled
  | [] => s
  | d :: ds =>
    if fits s.significand d then fraction ⟨s.significand * 10 + d, s.power - 1⟩ ds else s

end Scaled

/-! ## Exponents -/

/-- The least exponent that is too large to be told from any larger. -/
def exponentLimit : Nat := 0x80000000

/-- The exponent that digits write, or how many of them were read when it
reached the limit. -/
def readExponent (value count : Nat) : List Nat → Except Nat Nat
  | [] => .ok value
  | d :: ds =>
    if value * 10 + d < exponentLimit then readExponent (value * 10 + d) (count + 1) ds
    else .error (count + 1)

/-- The nearest exponent within the limit. -/
def clampPower (power : Int) : Int := max (-exponentLimit) (min (exponentLimit - 1) power)

/-! ## Scaling -/

def powerOfTen (n : Nat) : Binary64 := .ofNat (Nat.pow 10 n)

/-- Divides by `10 ^ 308` as often as asked, or until nothing is left. -/
def divideOut (x : Binary64) : Nat → Binary64
  | 0 => x
  | n + 1 => if x.isZero then x else divideOut (x.div (powerOfTen 308)) n

/-- The number `x * 10 ^ power`, if it is in range. -/
def scaleByTen? (x : Binary64) (power : Int) : Option Binary64 :=
  if 0 ≤ power then
    if power ≤ 308 then
      let y := x.mul (powerOfTen power.toNat)
      if y.isFinite then some y else none
    else if x.isZero then some x
    else none
  else
    let steps := (power.natAbs - 1) / 308
    some ((divideOut x steps).div (powerOfTen (power.natAbs - 308 * steps)))

/-- The number with its sign set. -/
def withSign (negative : Bool) (x : Binary64) : Binary64 := .ofMagnitude negative x.magnitude

/-- The number of digits read when the range was left, or all if `none`. -/
abbrev OutOfRange := Option Nat

namespace NumberText

/-- The value of a number that has a fraction or an exponent, or whose digits
do not fit. An error says after how many digits of the exponent the number was
known to be out of range, if not only after all of it. -/
def float (t : NumberText) (s : Scaled) : Except OutOfRange Binary64 :=
  match t.exponent with
  | none => finish s.power
  | some (down, digits) =>
    match readExponent 0 0 digits with
    | .ok e => finish (clampPower (if down then s.power - e else s.power + e))
    | .error count =>
      if s.significand = 0 ∨ down then .ok (withSign t.negative .zero) else .error (some count)
where
  finish (power : Int) : Except OutOfRange Binary64 :=
    match scaleByTen? (.ofNat s.significand) power with
    | some x => .ok (withSign t.negative x)
    | none => .error none

def value (t : NumberText) : Except OutOfRange JsonNumber :=
  let s := Scaled.whole 0 t.whole
  match t.fraction, t.exponent with
  | none, none =>
    if s.power = 0 then
      if !t.negative then .ok (.integer s.significand)
      else if 0 < s.significand ∧ s.significand ≤ 0x8000000000000000 then
        .ok (.integer (-s.significand))
      else .ok (.float (withSign true (.ofNat s.significand)))
    else .float <$> t.float s
  | fraction, _ => .float <$> t.float (s.fraction (fraction.getD []))

end NumberText

end Targeting.Json

import Targeting.Decimal.Shortest
/-!
# Writing decimals

A `Layout` says how a number's shortest decimal is laid out: for which sizes
in fixed notation, and in which form otherwise. A number written with an
exponent shows one digit before the point, and the exponent always has a sign.
-/

namespace Targeting

structure Layout where
  /-- The least power of ten of a leading digit that is written in fixed
  notation. -/
  fixedFrom : Int
  /-- The least power of ten above it that is not. -/
  fixedBelow : Int
  /-- Whether a whole number in fixed notation ends in `.0`. -/
  pointZero : Bool
  /-- The fewest digits of an exponent. -/
  exponentWidth : Nat
  /-- Whether a negative zero keeps its sign. -/
  signedZero : Bool

namespace Layout

def digitsOf (n : Nat) : List Char := Nat.toDigits 10 n

def zeros (n : Nat) : List Char := List.replicate n '0'

/-- The digits with a point after the first `point` of them, where `point` may
lie outside. Nothing follows a whole number, or `.0`. -/
def fixed (pointZero : Bool) (digits : List Char) (point : Int) : List Char :=
  if point ≤ 0 then '0' :: '.' :: zeros (-point).toNat ++ digits
  else if digits.length ≤ point then
    digits ++ zeros (point - digits.length).toNat ++ (if pointZero then ['.', '0'] else [])
  else digits.take point.toNat ++ '.' :: digits.drop point.toNat

/-- The digits with a point after the first, and the exponent. -/
def scientific (s : Layout) (digits : List Char) (exponent : Int) : List Char :=
  let power := digitsOf exponent.natAbs
  digits.take 1 ++ (if digits.length ≤ 1 then [] else '.' :: digits.drop 1) ++
    'e' :: (if exponent < 0 then '-' else '+') :: zeros (s.exponentWidth - power.length) ++ power

/-- A decimal without its sign. -/
def size (s : Layout) (d : Decimal) : List Char :=
  let digits := digitsOf d.digits
  let point := digits.length + d.exponent
  if s.fixedFrom ≤ point - 1 ∧ point - 1 < s.fixedBelow then fixed s.pointZero digits point
  else s.scientific digits (point - 1)

/-- The text of a finite number. -/
def write (s : Layout) (x : Binary64) : String :=
  let sign := x.isNegative && (s.signedZero || !x.isZero)
  String.ofList ((if sign then ['-'] else []) ++ s.size (Decimal.shortest x))

end Layout

end Targeting

import Targeting.Binary64.Basic
/-!
# The shortest decimal of a number

A decimal reads back as a number if it lies in the number's interval: halfway
to the neighbour on either side, the ends included if the significand is even.
`Decimal.shortest` takes the coarsest power of ten with a multiple in that
interval. A multiple of a coarser power has fewer digits, so this decimal has
the fewest digits that read back, and none of them is a trailing zero. Of two
such multiples it takes the nearer, and of two equally near the larger.
-/

namespace Targeting

/-- The decimal `digits * 10 ^ exponent`. -/
structure Decimal where
  digits : Nat
  exponent : Int
deriving DecidableEq, Repr

/-! ## The interval of a number -/

/-- The reals that round to a number, as multiples of `2 ^ unit`. -/
structure ReadingInterval where
  low : Nat
  centre : Nat
  high : Nat
  unit : Int
  /-- Whether the two ends belong to it. -/
  closed : Bool

namespace ReadingInterval

/-- The interval of a finite number's size, in quarters of its last place. The
neighbour below the least significand of an exponent is nearer by half, unless
that exponent is the smallest. -/
def ofSize (x : Binary64) : ReadingInterval where
  low := 4 * x.significand - (if x.fraction = 0 ∧ 1 < x.exponentField then 1 else 2)
  centre := 4 * x.significand
  high := 4 * x.significand + 2
  unit := x.scale - 2
  closed := x.significand % 2 = 0

/-- `2 ^ unit / 10 ^ exponent` is `unitNum / unitDen`. -/
def unitNum (i : ReadingInterval) (exponent : Int) : Nat :=
  Nat.pow 2 i.unit.toNat * Nat.pow 10 (-exponent).toNat

def unitDen (i : ReadingInterval) (exponent : Int) : Nat :=
  Nat.pow 2 (-i.unit).toNat * Nat.pow 10 exponent.toNat

/-- Whether `d` reads back as the number. -/
def contains (i : ReadingInterval) (d : Decimal) : Bool :=
  let low := i.low * i.unitNum d.exponent
  let high := i.high * i.unitNum d.exponent
  let here := d.digits * i.unitDen d.exponent
  if i.closed then low ≤ here && here ≤ high else low < here && here < high

/-- The nearest multiple of `10 ^ exponent` in the interval. -/
def nearest? (i : ReadingInterval) (exponent : Int) : Option Decimal :=
  let num := i.centre * i.unitNum exponent
  let den := i.unitDen exponent
  let below : Decimal := ⟨num / den, exponent⟩
  let above : Decimal := ⟨num / den + 1, exponent⟩
  match i.contains below, i.contains above with
  | true, true => some (if 2 * (num % den) < den then below else above)
  | true, false => some below
  | false, true => some above
  | false, false => none

end ReadingInterval

/-! ## The shortest decimal -/

namespace Decimal

/-- The powers of ten that can end a shortest decimal, the coarsest first. -/
def exponents : List Int := (List.range 633).map fun (i : Nat) => 308 - (i : Int)

/-- The shortest decimal of a finite number's size; of a zero, 0. -/
def shortest (x : Binary64) : Decimal :=
  if x.isZero then ⟨0, 0⟩
  else ((exponents.findSome? (ReadingInterval.ofSize x).nearest?).getD ⟨0, 0⟩)

end Decimal

end Targeting

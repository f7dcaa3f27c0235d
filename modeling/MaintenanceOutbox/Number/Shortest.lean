import MaintenanceOutbox.Number.Binary64

set_option autoImplicit false

/-! # Shortest decimals

The decimal by which a binary64 number is written: it has the fewest digits with which the number
can still be told from all others, and is the nearest of those that have so many.

A decimal stands for a number if that number is the nearest to it (`Binary64.isNearestTo`). For one
digit, two digits and so on, the two decimals next to the number, below and above it, are tried; if
any decimal with so many digits stands for the number, one of these two does. Seventeen digits are
always enough.
-/

namespace MaintenanceOutbox

/-- The decimal `digits * 10 ^ exponent`. -/
structure Decimal where
  digits : Nat
  exponent : Int
deriving DecidableEq, Repr

namespace Binary64

/-- Is `x` the number nearest to the decimal, apart from the sign? -/
def isNearestTo (x : Binary64) (d : Decimal) : Bool :=
  nearest? x.negative (d.digits * power 10 d.exponent) (power 10 (-d.exponent)) = some x

/-- How many decimal digits `n` has. -/
def digitCount (n : Nat) : Nat :=
  (Nat.toDigits 10 n).length

/-- The least power of ten above the number, which is not zero. -/
def magnitude (x : Binary64) : Int :=
  if x.denominator ≤ x.numerator then digitCount (x.numerator / x.denominator)
  else 1 - digitCount (x.denominator / x.numerator)

/-- The decimal next to the number with `count` digits that stands for it, if one does; the nearer
one if both do. -/
def decimalOf? (x : Binary64) (count : Nat) : Option Decimal :=
  let exponent := x.magnitude - count
  let n := x.numerator * power 10 (-exponent)
  let d := x.denominator * power 10 exponent
  let below : Decimal := ⟨n / d, exponent⟩
  let above : Decimal := ⟨n / d + 1, exponent⟩
  if x.isNearestTo below then
    if x.isNearestTo above then some ⟨nearestNat n d, exponent⟩ else some below
  else if x.isNearestTo above then some above
  else none

/-- **The shortest decimal that stands for the number,** which is not zero. -/
def shortest (x : Binary64) : Decimal :=
  let counts := (List.range 17).map (· + 1)
  (counts.findSome? x.decimalOf?).getD ⟨x.numerator / x.denominator, 0⟩

end Binary64

end MaintenanceOutbox

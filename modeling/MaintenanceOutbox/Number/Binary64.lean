set_option autoImplicit false

/-! # Binary64 numbers

The finite numbers of the 64-bit binary floating-point format, and what is needed to read one: the
number nearest to a ratio, products, quotients and powers of ten. All of it is exact arithmetic on
naturals that is rounded once, to the nearest number, and to the even one of two that are equally
near.

**One form for each number.** A significand has 53 bits, the first of them set, unless the exponent
is the least there is. So numbers are equal exactly if their three parts are.
-/

namespace MaintenanceOutbox

/-- A finite number, `± significand * 2 ^ exponent`. -/
structure Binary64 where
  negative : Bool
  significand : Nat
  exponent : Int
deriving DecidableEq, Repr, Inhabited

namespace Binary64

/-! ## The format -/

/-- The least significand of 53 bits. -/
def leastFull : Nat := 0x10000000000000

/-- The least number with more than 53 bits. -/
def significandLimit : Nat := 0x20000000000000

/-- The least exponent. -/
def leastExponent : Int := -1074

/-- The greatest exponent. -/
def greatestExponent : Int := 971

/-- Zero, which has a sign, too. -/
def zero (negative : Bool) : Binary64 :=
  ⟨negative, 0, leastExponent⟩

/-- `base` to the power of `exponent`, or one where the exponent is negative. -/
def power (base : Nat) (exponent : Int) : Nat :=
  Nat.pow base exponent.toNat

/-- The magnitude of a number is `numerator / denominator`. -/
def numerator (x : Binary64) : Nat :=
  x.significand * power 2 x.exponent

/-- The other part of the magnitude. It is never zero. -/
def denominator (x : Binary64) : Nat :=
  power 2 (-x.exponent)

/-! ## Rounding -/

/-- The natural number nearest to `n / d`, and the even one of two that are equally near. -/
def nearestNat (n d : Nat) : Nat :=
  if 2 * (n % d) < d then n / d
  else if d < 2 * (n % d) then n / d + 1
  else if n / d % 2 = 0 then n / d
  else n / d + 1

/-- What is rounded is off by half at most. -/
theorem nearestNat_within_half (n d : Nat) (h : 0 < d) :
    2 * n ≤ 2 * (d * nearestNat n d) + d ∧ 2 * (d * nearestNat n d) ≤ 2 * n + d := by
  have whole : d * (n / d) + n % d = n := Nat.div_add_mod n d
  have rest : n % d < d := Nat.mod_lt n h
  have next : d * (n / d + 1) = d * (n / d) + d := Nat.mul_succ d (n / d)
  unfold nearestNat
  split
  · omega
  · split
    · omega
    · split <;> omega

/-- A natural number stays as it is. -/
theorem nearestNat_one (n : Nat) : nearestNat n 1 = n := by
  simp [nearestNat, Nat.mod_one]

/-- The exponent at which `n / d` has a significand of 53 bits before rounding, or the least one if
that is greater. -/
def exponentFor (n d : Nat) : Int :=
  let guess : Int := (n.log2 : Int) - d.log2 - 52
  let exponent :=
    if n * power 2 (-guess) < leastFull * d * power 2 guess then guess - 1 else guess
  if exponent < leastExponent then leastExponent else exponent

/-- **The number nearest to `n / d`,** with the given sign, unless that is too great for the
format. -/
def nearest? (negative : Bool) (n d : Nat) : Option Binary64 :=
  if n = 0 then some (zero negative)
  else
    let exponent := exponentFor n d
    let significand := nearestNat (n * power 2 (-exponent)) (d * power 2 exponent)
    let x : Binary64 :=
      if significand = significandLimit then ⟨negative, leastFull, exponent + 1⟩
      else ⟨negative, significand, exponent⟩
    if greatestExponent < x.exponent then none else some x

/-! ## Scaling by powers of ten -/

/-- The product of two numbers, with the sign of the first. -/
def times? (x y : Binary64) : Option Binary64 :=
  nearest? x.negative (x.numerator * y.numerator) (x.denominator * y.denominator)

/-- The quotient of two numbers, with the sign of the first. -/
def over? (x y : Binary64) : Option Binary64 :=
  nearest? x.negative (x.numerator * y.denominator) (x.denominator * y.numerator)

/-- The number nearest to `10 ^ k`. -/
def powerOfTen? (k : Nat) : Option Binary64 :=
  nearest? false (Nat.pow 10 k) 1

/-- The greatest power of ten in the format. -/
def greatestPowerOfTen : Nat := 308

/-- The number divided by `10 ^ k`. Beyond the greatest power of ten this takes two divisions, and
beyond its square nothing is left of any number that a counter of 64 bits can hold. -/
def shiftedDown? (x : Binary64) (k : Nat) : Option Binary64 :=
  if k ≤ greatestPowerOfTen then do
    x.over? (← powerOfTen? k)
  else if k ≤ 2 * greatestPowerOfTen then do
    let y ← x.over? (← powerOfTen? greatestPowerOfTen)
    y.over? (← powerOfTen? (k - greatestPowerOfTen))
  else some (zero x.negative)

/-- The number multiplied by `10 ^ k`, unless that is too great for the format. -/
def shiftedUp? (x : Binary64) (k : Nat) : Option Binary64 :=
  if x.significand = 0 then some x
  else if k ≤ greatestPowerOfTen then do
    x.times? (← powerOfTen? k)
  else none

/-- **The number that `± digits * 10 ^ exponent` denotes.** Digits and power of ten are rounded
before they are put together; for numbers with more than fifteen digits, or a power of ten beyond
the twenty-second, the result may therefore be a neighbour of the nearest one. -/
def ofDecimal? (negative : Bool) (digits : Nat) (exponent : Int) : Option Binary64 := do
  let x ← nearest? negative digits 1
  if exponent < 0 then x.shiftedDown? exponent.natAbs else x.shiftedUp? exponent.natAbs

end Binary64

end MaintenanceOutbox

import MaintenanceOutbox.Number.Shortest

set_option autoImplicit false

/-! # How floating-point numbers are written

A floating-point number is written with its shortest decimal. From `0.00001` up to sixteen digits
before the point the notation is positional, with at least one digit on either side of the point:
`1.5`, `-0.25`, `3.0`. Other numbers have one digit before the point, none or more after it, and an
exponent with its sign: `1e+16`, `2.5e-7`.
-/

namespace MaintenanceOutbox.Binary64

/-- The positional notation of `0.digits * 10 ^ point`. -/
def positional (digits : List Char) (point : Int) : List Char :=
  if point ≤ 0 then ['0', '.'] ++ List.replicate point.natAbs '0' ++ digits
  else
    let places := point.toNat
    if digits.length ≤ places then
      digits ++ List.replicate (places - digits.length) '0' ++ ['.', '0']
    else digits.take places ++ ['.'] ++ digits.drop places

/-- The notation of `0.digits * 10 ^ point` with an exponent. -/
def scientific (digits : List Char) (point : Int) : List Char :=
  let exponent := point - 1
  let places := digits.drop 1
  digits.take 1 ++ (if places.isEmpty then [] else '.' :: places) ++
    ['e', if exponent < 0 then '-' else '+'] ++ Nat.toDigits 10 exponent.natAbs

/-- The text of a positive number with the given decimal. -/
def decimalText (d : Decimal) : List Char :=
  let digits := Nat.toDigits 10 d.digits
  let point := d.exponent + digits.length
  let digits := (digits.reverse.dropWhile (· = '0')).reverse
  if -5 < point ∧ point ≤ 16 then positional digits point else scientific digits point

/-- **The text of a number.** -/
def toText (x : Binary64) : String :=
  let magnitude := if x.significand = 0 then ['0', '.', '0'] else decimalText x.shortest
  String.ofList (if x.negative then '-' :: magnitude else magnitude)

end MaintenanceOutbox.Binary64

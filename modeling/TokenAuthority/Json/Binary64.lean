/-!
# Binary numbers of double precision

A finite number of the 64-bit binary format, kept as an exact sign, odd mantissa and power of two.
Each number has one such form, so equality of forms tells numbers apart. Zero has two, with a sign
and without; `Binary64.unsignedZero` leaves one.

`Binary64.scaled?` says which number a decimal stands for: the significand is rounded once, then
multiplied or divided by a rounded power of ten. The result may be one unit off the nearest number,
and every reader of the format agrees on it.
-/

namespace TokenAuthority.Json

/-- The number `mantissa * 2 ^ exponent`, or its opposite. -/
structure Binary64 where
  negative : Bool
  mantissa : Nat
  exponent : Int
  deriving DecidableEq, Repr

namespace Binary64

def zero (negative : Bool) : Binary64 where
  negative
  mantissa := 0
  exponent := 0

def isZero (number : Binary64) : Bool := number.mantissa = 0

def unsignedZero (number : Binary64) : Binary64 :=
  if number.isZero then zero false else number

def reduced (negative : Bool) (mantissa : Nat) (exponent : Int) : Binary64 :=
  if mantissa = 0 then zero negative
  else if mantissa % 2 = 0 then reduced negative (mantissa / 2) (exponent + 1)
  else { negative, mantissa, exponent }
  termination_by mantissa

def numerator (number : Binary64) : Nat :=
  number.mantissa * Nat.pow 2 number.exponent.toNat

def denominator (number : Binary64) : Nat :=
  Nat.pow 2 (-number.exponent).toNat

private def leadingPower (numerator denominator : Nat) : Int :=
  let guess : Int := (numerator.log2 : Int) - denominator.log2
  if denominator * Nat.pow 2 guess.toNat ≤ numerator * Nat.pow 2 (-guess).toNat then guess
  else guess - 1

private def nearestQuotient (numerator denominator : Nat) : Nat :=
  let quotient := numerator / denominator
  let twice := 2 * (numerator % denominator)
  if twice < denominator then quotient
  else if denominator < twice then quotient + 1
  else quotient + quotient % 2

/-- The nearest number to a fraction, ties to even; nothing beyond the largest number. Numbers have
at most 53 binary digits, and no digit is worth less than `2 ^ -1074`. -/
def nearest? (negative : Bool) (numerator denominator : Nat) : Option Binary64 :=
  if numerator = 0 then some (zero negative)
  else
    let unit := max (leadingPower numerator denominator - 52) (-1074)
    let mantissa :=
      nearestQuotient (numerator * Nat.pow 2 (-unit).toNat) (denominator * Nat.pow 2 unit.toNat)
    if mantissa * Nat.pow 2 unit.toNat < Nat.pow 2 1024 then some (reduced negative mantissa unit)
    else none

def product? (left right : Binary64) : Option Binary64 :=
  nearest? (left.negative != right.negative) (left.numerator * right.numerator)
    (left.denominator * right.denominator)

def quotient? (left right : Binary64) : Option Binary64 :=
  nearest? (left.negative != right.negative) (left.numerator * right.denominator)
    (left.denominator * right.numerator)

def powerOfTen? (exponent : Nat) : Option Binary64 :=
  nearest? false (Nat.pow 10 exponent) 1

/-- Divides by a power of ten in steps of at most `10 ^ 308`. -/
private def shrunk? (number : Binary64) (places : Nat) : Option Binary64 :=
  if number.isZero then some number
  else if small : places ≤ 308 then do number.quotient? (← powerOfTen? places)
  else do
    let next ← number.quotient? (← powerOfTen? 308)
    next.shrunk? (places - 308)
  termination_by places

/-- The number that `significand * 10 ^ places`, or its opposite, stands for. A number too small
keeps its sign as a zero. -/
def scaled? (negative : Bool) (significand : Nat) (places : Int) : Option Binary64 := do
  let start ← nearest? negative significand 1
  match places with
  | .ofNat up =>
      if start.isZero then some start
      else if up ≤ 308 then start.product? (← powerOfTen? up)
      else none
  | .negSucc down => start.shrunk? (down + 1)

end Binary64

end TokenAuthority.Json

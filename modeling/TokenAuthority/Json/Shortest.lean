import TokenAuthority.Json.Binary64

/-!
# Shortest decimals

The fewest digits that tell a binary number from all others. Every binary number stands for the
interval of reals that are nearest to it. The coarsest decimal grid with a point in that interval
gives the digits; of two points the nearer one counts, and of two equally near the one with an even
last digit.
-/

namespace TokenAuthority.Json

structure Decimal where
  digits : Nat
  places : Int
  deriving DecidableEq, Repr

namespace Decimal

def trimmed (digits : Nat) (places : Int) : Decimal :=
  if digits = 0 then { digits, places := 0 }
  else if digits % 10 = 0 then trimmed (digits / 10) (places + 1)
  else { digits, places }
  termination_by digits

end Decimal

namespace Binary64

/-- The mantissa with as many digits as there are, and the exponent that goes with it. -/
def extended (number : Binary64) : Nat × Int :=
  let exponent := max (number.exponent - (52 - number.mantissa.log2 : Nat)) (-1074)
  (number.mantissa * Nat.pow 2 (number.exponent - exponent).toNat, exponent)

/-- The interval of a number and the number itself, in fourths of its last digit. -/
structure Span where
  low : Nat
  middle : Nat
  high : Nat
  /-- Whether the interval has its ends. -/
  isClosed : Bool

/-- Below a power of two numbers are twice as dense. -/
def span (mantissa : Nat) (exponent : Int) : Span where
  low := if mantissa = 4503599627370496 ∧ -1074 < exponent then 4 * mantissa - 1
    else 4 * mantissa - 2
  middle := 4 * mantissa
  high := 4 * mantissa + 2
  isClosed := mantissa % 2 = 0

/-- The point of a grid that counts, if one lies in the interval. The interval is in units of
`numerator / denominator` and the points of the grid are the integers. -/
def pointOn? (span : Span) (numerator denominator : Nat) : Option Nat :=
  let lower := span.middle * numerator / denominator
  let isInside := fun point =>
    let scaled := point * denominator
    if span.isClosed then span.low * numerator ≤ scaled && scaled ≤ span.high * numerator
    else span.low * numerator < scaled && scaled < span.high * numerator
  let twice := 2 * (span.middle * numerator)
  let between := (2 * lower + 1) * denominator
  let upperIsNearer := between < twice || (between == twice && lower % 2 == 1)
  match isInside lower, isInside (lower + 1) with
  | true, true => some (if upperIsNearer then lower + 1 else lower)
  | true, false => some lower
  | false, true => some (lower + 1)
  | false, false => none

def firstPoint (span : Span) (exponent : Int) : (grids : Nat) → (places : Int) → Decimal
  | 0, places => { digits := 0, places }
  | grids + 1, places =>
      let numerator := Nat.pow 2 exponent.toNat * Nat.pow 10 (-places).toNat
      let denominator := Nat.pow 2 (-exponent).toNat * Nat.pow 10 places.toNat
      match pointOn? span numerator denominator with
      | some digits => .trimmed digits places
      | none => firstPoint span exponent grids (places - 1)

/-- How many digits a number has before its point, or the opposite of how many zeros there are
behind it; at most one more than that. -/
def magnitude (number : Binary64) : Int :=
  let numerator := number.numerator
  let denominator := number.denominator
  if denominator ≤ numerator then (Nat.repr (numerator / denominator)).length
  else 1 - (Nat.repr (denominator / numerator)).length

def shortest (number : Binary64) : Decimal :=
  if number.mantissa = 0 then { digits := 0, places := 0 }
  else
    let (mantissa, exponent) := number.extended
    firstPoint (span mantissa exponent) (exponent - 2) 20 number.magnitude

end Binary64

end TokenAuthority.Json

/-!
# Decimal numbers as text

Whole numbers without a minus sign: one digit or more, and possibly one plus sign in front. Leading
zeros do not matter.
-/

namespace TokenAuthority.Text

def isDigit (value : Char) : Bool :=
  48 ≤ value.toNat && value.toNat ≤ 57

def digitsValue (read : Nat) (digits : List Char) : Nat :=
  digits.foldl (fun value digit => value * 10 + (digit.toNat - 48)) read

def digits? (text : List Char) : Option Nat :=
  if text ≠ [] ∧ text.all isDigit then some (digitsValue 0 text) else none

/-- A number below `limit`, possibly with a plus sign. -/
def decimal? (limit : Nat) (text : List Char) : Option Nat :=
  let digits := match text with
    | '+' :: digits => digits
    | _ => text
  (digits? digits).filter (· < limit)

example : decimal? 256 "+007".toList = some 7 := by decide
example : decimal? 256 "256".toList = none := by decide
example : decimal? 256 "+".toList = none := by decide

end TokenAuthority.Text

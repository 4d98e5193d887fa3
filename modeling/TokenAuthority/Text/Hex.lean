/-!
# Numbers base sixteen

Digits in either case. Ten of them are decimal, and the letters from `a` to `f` go on from there.
-/

namespace TokenAuthority.Text

def hexValue? (digit : Char) : Option Nat :=
  let point := digit.toNat
  if 48 ≤ point ∧ point ≤ 57 then some (point - 48)
  else if 65 ≤ point ∧ point ≤ 70 then some (point - 55)
  else if 97 ≤ point ∧ point ≤ 102 then some (point - 87)
  else none

/-- The number that digits spell; no digits spell zero. -/
def hexNumber? (digits : List Char) : Option Nat :=
  (digits.mapM hexValue?).map fun values =>
    values.foldl (fun number value => number * 16 + value) 0

def hexDigits (number : Nat) : String :=
  String.ofList (Nat.toDigits 16 number)

theorem hexValue?_lt {digit : Char} {value : Nat} (found : hexValue? digit = some value) :
    value < 16 := by
  unfold hexValue? at found
  dsimp only at found
  split at found
  · cases found; omega
  · split at found
    · cases found; omega
    · split at found
      · cases found; omega
      · cases found

example : hexNumber? "1f600".toList = some 128512 := by decide
example : hexNumber? "1G".toList = none := by decide
example : hexDigits 128512 = "1f600" := by decide

end TokenAuthority.Text

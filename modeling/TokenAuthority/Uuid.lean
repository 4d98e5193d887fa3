/-!
# Unique ids

An id of 128 bits, held as its 32 digits base sixteen. It has one printed form, lower case and in
five groups, and four forms in which it is read: grouped, plain, grouped within braces, and grouped
behind `urn:uuid:`. Case never matters to the reader.
-/

namespace TokenAuthority

structure Uuid where
  digits : List (Fin 16)
  length_digits : digits.length = 32 := by decide
  deriving DecidableEq, Repr

namespace Uuid

def nil : Uuid where
  digits := List.replicate 32 0

/-! ## Digits -/

def digitChar (digit : Fin 16) : Char :=
  if digit.val < 10 then Char.ofNat (48 + digit.val) else Char.ofNat (87 + digit.val)

def digit? (value : Char) : Option (Fin 16) :=
  let point := value.toNat
  if 48 ≤ point ∧ point ≤ 57 then some (Fin.ofNat 16 (point - 48))
  else if 65 ≤ point ∧ point ≤ 70 then some (Fin.ofNat 16 (point - 55))
  else if 97 ≤ point ∧ point ≤ 102 then some (Fin.ofNat 16 (point - 87))
  else none

theorem digit?_digitChar (digit : Fin 16) : digit? (digitChar digit) = some digit := by
  revert digit
  decide

/-! ## Printing -/

def chars (id : Uuid) : List Char :=
  let printed := id.digits.map digitChar
  printed.take 8 ++ '-' :: (printed.drop 8).take 4 ++ '-' :: (printed.drop 12).take 4 ++
    '-' :: (printed.drop 16).take 4 ++ '-' :: printed.drop 20

def toString (id : Uuid) : String :=
  String.ofList id.chars

/-! ## Reading -/

def ofPlain? (chars : List Char) : Option Uuid :=
  match chars.mapM digit? with
  | some digits => if sized : digits.length = 32 then some ⟨digits, sized⟩ else none
  | none => none

def ofGrouped? (chars : List Char) : Option Uuid :=
  if chars.length = 36 ∧ chars[8]? = some '-' ∧ chars[13]? = some '-' ∧ chars[18]? = some '-' ∧
      chars[23]? = some '-' then
    ofPlain? (chars.take 8 ++ (chars.drop 9).take 4 ++ (chars.drop 14).take 4 ++
      (chars.drop 19).take 4 ++ chars.drop 24)
  else none

private def scheme : List Char := "urn:uuid:".toList

private def lowerCase (value : Char) : Char :=
  if 65 ≤ value.toNat ∧ value.toNat ≤ 90 then Char.ofNat (value.toNat + 32) else value

def ofChars? (chars : List Char) : Option Uuid :=
  if chars.length = 32 then ofPlain? chars
  else if chars.length = 38 ∧ chars.head? = some '\x7b' ∧ chars.getLast? = some '\x7d' then
    ofGrouped? ((chars.drop 1).take 36)
  else if chars.length = 45 ∧ (chars.take 9).map lowerCase = scheme then
    ofGrouped? (chars.drop 9)
  else ofGrouped? chars

def parse? (text : String) : Option Uuid :=
  ofChars? text.toList

example : (parse? "URN:UUID:5CF37266-3473-4006-984f-9325122678b7").map toString =
    some "5cf37266-3473-4006-984f-9325122678b7" := by decide +kernel
example : parse? "{5cf3726634734006984f9325122678b7}" = none := by decide +kernel

end Uuid

end TokenAuthority

import TokenAuthority.Json.Writer
import TokenAuthority.Proofs.Text.Digits

/-!
# Integers as numerals

The digits of an integer are a numeral, and its number is that integer as long as 64 bits hold it.
-/

namespace TokenAuthority.Json

/-! ## Digits -/

def digitOf (digit : Char) : Nat :=
  digit.toNat - 48

theorem ne_of_isDigit {value other : Char} (isDigit : value.isDigit = true)
    (noDigit : other.isDigit = false) : value ≠ other := by
  intro same
  rw [same, noDigit] at isDigit
  cases isDigit

theorem toDigits_eq_cons {value : Nat} (positive : 0 < value) :
    ∃ first rest, Nat.toDigits 10 value = first :: rest ∧ first ≠ '0' ∧ first.isDigit = true := by
  induction value using Nat.strongRecOn with
  | _ value induction =>
      by_cases small : value < 10
      · have leading : ∀ digit < 10, 0 < digit →
            digit.digitChar ≠ '0' ∧ digit.digitChar.isDigit = true := by
          decide
        rw [Nat.toDigits_of_lt_base small]
        exact ⟨value.digitChar, [], rfl, leading value small positive⟩
      · rcases induction (value / 10) (by omega) (by omega) with ⟨first, rest, same, leading⟩
        rw [Nat.toDigits_of_base_le (by decide) (by omega), same]
        exact ⟨first, rest ++ [(value % 10).digitChar], rfl, leading⟩

namespace Numeral

open Text (valueBehind)

theorem le_valueBehind (read : Nat) (digits : List Nat) : read ≤ valueBehind 10 read digits := by
  induction digits generalizing read with
  | nil => exact Nat.le_refl read
  | cons digit rest induction =>
      have later := induction (read * 10 + digit)
      change read ≤ valueBehind 10 (read * 10 + digit) rest
      omega

theorem gather_eq {read : Nat} {digits : List Nat}
    (small : valueBehind 10 read digits < significandLimit) :
    gather read digits = (valueBehind 10 read digits, []) := by
  induction digits generalizing read with
  | nil => rfl
  | cons digit rest induction =>
      have later := le_valueBehind (read * 10 + digit) rest
      change valueBehind 10 (read * 10 + digit) rest < significandLimit at small
      have fits : read * 10 + digit < significandLimit := by omega
      change (if read * 10 + digit < significandLimit then _ else _) = _
      rw [if_pos fits]
      exact induction small

theorem valueBehind_toDigits (value : Nat) :
    valueBehind 10 0 ((Nat.toDigits 10 value).map digitOf) = value := by
  have same : valueBehind 10 0 ((Nat.toDigits 10 value).map digitOf) =
      Nat.ofDigitChars 10 (Nat.toDigits 10 value) 0 := by
    rw [valueBehind, List.foldl_map, Nat.ofDigitChars_eq_foldl]
    simp only [digitOf, Nat.mul_comm]
    rfl
  rw [same, Nat.ofDigitChars_ten_toDigits]

def ofWhole (negative : Bool) (whole : List Nat) : Numeral where
  negative := negative
  whole := whole
  fraction := []
  exponent := none

def ofInt (value : Int) : Numeral :=
  ofWhole (value < 0) ((Nat.toDigits 10 value.natAbs).map digitOf)

theorem number?_ofInt {value : Int} (least : -(Word.half64 : Int) ≤ value)
    (greatest : value < Word.size64) : (ofInt value).number? = some (.integer value) := by
  have whole : valueBehind 10 0 (ofInt value).whole = value.natAbs := valueBehind_toDigits _
  have small : value.natAbs < significandLimit := by
    simp only [Word.half64, Word.size64, significandLimit] at *
    omega
  have gathered : gather 0 (ofInt value).whole = (value.natAbs, []) := by
    rw [gather_eq (by rw [whole]; exact small), whole]
  have noPoint : ((ofInt value).fraction.isEmpty && (ofInt value).exponent.isNone) = true := rfl
  rw [number?, if_pos noPoint, gathered]
  by_cases negative : value < 0
  · have signed : (ofInt value).negative = true := decide_eq_true negative
    have bounds : 0 < value.natAbs ∧ value.natAbs ≤ Word.half64 := by omega
    have same : -(value.natAbs : Int) = value := by omega
    simp only [signed, Bool.true_eq_false, if_false, if_pos bounds, same]
  · have unsigned : (ofInt value).negative = false := decide_eq_false negative
    have same : (value.natAbs : Int) = value := by omega
    simp only [unsigned, if_true, same]

end Numeral

end TokenAuthority.Json

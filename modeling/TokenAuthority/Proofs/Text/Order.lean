import Mathlib.Data.String.Basic
import TokenAuthority.Proofs.Text.Utf8

/-!
# Texts in the order of their bytes

Texts stand in the order of their characters, and so do their bytes: more continuation bytes come
with a greater lead, and behind one lead the bytes are the digits of the character, highest first.
-/

namespace TokenAuthority.Text

variable {left right : Nat}

theorem ofNat_lt_ofNat {small large : Nat} (less : small < large) (isByte : large < 256) :
    UInt8.ofNat small < UInt8.ofNat large :=
  (UInt8.ofNat_lt_iff_lt (Nat.lt_trans less isByte) isByte).mpr less

theorem continuation_lt (less : left % 64 < right % 64) : continuation left < continuation right :=
  ofNat_lt_ofNat (by omega) (by omega)

/-! ## Digits -/

/-- What is left of a point in front of its lowest digits. -/
def front : (digits point : Nat) → Nat
  | 0, point => point
  | digits + 1, point => front digits (point / 64)

def continuations : (digits point : Nat) → List UInt8
  | 0, _ => []
  | digits + 1, point => continuations digits (point / 64) ++ [continuation point]

theorem front_le_front (digits : Nat) (le : left ≤ right) :
    front digits left ≤ front digits right := by
  induction digits generalizing left right with
  | zero => exact le
  | succ digits induction => exact induction (Nat.div_le_div_right le)

theorem continuations_lt {digits : Nat} (same : front digits left = front digits right)
    (less : left < right) (rest others : List UInt8) :
    continuations digits left ++ rest < continuations digits right ++ others := by
  induction digits generalizing left right rest others with
  | zero => exact absurd same (Nat.ne_of_lt less)
  | succ digits induction =>
      rw [continuations, continuations, List.append_assoc, List.append_assoc]
      have le : left / 64 ≤ right / 64 := Nat.div_le_div_right (Nat.le_of_lt less)
      rcases Nat.lt_or_eq_of_le le with above | sameAbove
      · exact induction same above _ _
      · rw [sameAbove]
        apply List.append_left_lt
        exact List.cons_lt_cons_iff.mpr (.inl (continuation_lt (by omega)))

/-! ## Characters -/

def digitsOf (point : Nat) : Nat :=
  if point < 0x80 then 0 else if point < 0x800 then 1 else if point < 0x10000 then 2 else 3

def mark (digits : Nat) : Nat :=
  if digits = 0 then 0 else if digits = 1 then 0xC0 else if digits = 2 then 0xE0 else 0xF0

def lead (point : Nat) : Nat :=
  mark (digitsOf point) + front (digitsOf point) point

theorem lead_cases (point : Nat) :
    point < 0x80 ∧ digitsOf point = 0 ∧ lead point = point ∨
    0x80 ≤ point ∧ point < 0x800 ∧ digitsOf point = 1 ∧ lead point = 0xC0 + point / 64 ∨
    0x800 ≤ point ∧ point < 0x10000 ∧ digitsOf point = 2 ∧ lead point = 0xE0 + point / 64 / 64 ∨
    0x10000 ≤ point ∧ digitsOf point = 3 ∧ lead point = 0xF0 + point / 64 / 64 / 64 := by
  have isLead : lead point = mark (digitsOf point) + front (digitsOf point) point := rfl
  rcases Nat.lt_or_ge point 0x80 with one | notOne
  · have isOne : digitsOf point = 0 := if_pos one
    rw [isOne] at isLead
    exact .inl ⟨one, isOne, isLead.trans (Nat.zero_add point)⟩
  rcases Nat.lt_or_ge point 0x800 with two | notTwo
  · have isTwo : digitsOf point = 1 := by
      rw [digitsOf, if_neg (by omega), if_pos two]
    rw [isTwo] at isLead
    exact .inr (.inl ⟨notOne, two, isTwo, isLead⟩)
  rcases Nat.lt_or_ge point 0x10000 with three | notThree
  · have isThree : digitsOf point = 2 := by
      rw [digitsOf, if_neg (by omega), if_neg (by omega), if_pos three]
    rw [isThree] at isLead
    exact .inr (.inr (.inl ⟨notTwo, three, isThree, isLead⟩))
  · have isFour : digitsOf point = 3 := by
      rw [digitsOf, if_neg (by omega), if_neg (by omega), if_neg (by omega)]
    rw [isFour] at isLead
    exact .inr (.inr (.inr ⟨notThree, isFour, isLead⟩))

theorem encodeChar_eq (value : Char) :
    encodeChar value =
      UInt8.ofNat (lead value.toNat) :: continuations (digitsOf value.toNat) value.toNat := by
  rcases lead_cases value.toNat with ⟨one, isOne, isLead⟩ | ⟨low, two, isTwo, isLead⟩ |
    ⟨low, three, isThree, isLead⟩ | ⟨low, isFour, isLead⟩
  · rw [encodeChar, if_pos one, isOne, isLead]
    rfl
  · rw [encodeChar, if_neg (by omega), if_pos two, isTwo, isLead]
    rfl
  · rw [encodeChar, if_neg (by omega), if_neg (by omega), if_pos three, isThree, isLead,
      Nat.div_div_eq_div_mul]
    rfl
  · rw [encodeChar, if_neg (by omega), if_neg (by omega), if_neg (by omega), isFour, isLead,
      Nat.div_div_eq_div_mul, Nat.div_div_eq_div_mul]
    simp [continuations, Nat.div_div_eq_div_mul]

theorem lead_lt (value : Char) : lead value.toNat < 256 := by
  have valid := validPoint value
  have cases := lead_cases value.toNat
  omega

theorem digitsOf_le_digitsOf (le : left ≤ right) : digitsOf left ≤ digitsOf right := by
  have leftCases := lead_cases left
  have rightCases := lead_cases right
  omega

theorem lead_lt_lead (more : digitsOf left < digitsOf right) : lead left < lead right := by
  have leftCases := lead_cases left
  have rightCases := lead_cases right
  omega

/-- Of two characters the lesser has the lesser bytes, whatever stands behind them. -/
theorem encodeChar_append_lt {left right : Char} (less : left < right)
    (rest others : List UInt8) : encodeChar left ++ rest < encodeChar right ++ others := by
  have points : left.toNat < right.toNat := less
  rw [encodeChar_eq, encodeChar_eq, List.cons_append, List.cons_append, List.cons_lt_cons_iff]
  rcases Nat.lt_or_eq_of_le (digitsOf_le_digitsOf (Nat.le_of_lt points)) with more | same
  · exact .inl (ofNat_lt_ofNat (lead_lt_lead more) (lead_lt right))
  · have le := front_le_front (digitsOf left.toNat) (Nat.le_of_lt points)
    rcases Nat.lt_or_eq_of_le le with lessFront | sameFront
    · refine .inl (ofNat_lt_ofNat ?_ (lead_lt right))
      rw [lead, lead, ← same]
      omega
    · refine .inr ⟨?_, ?_⟩
      · rw [lead, lead, ← same, sameFront]
      · rw [← same]
        exact continuations_lt sameFront points rest others

/-! ## Texts -/

theorem flatMap_encodeChar_lt {left right : List Char} (less : left < right) :
    left.flatMap encodeChar < right.flatMap encodeChar := by
  induction left generalizing right with
  | nil =>
      cases right with
      | nil => exact absurd less (List.not_lt_nil [])
      | cons value rest =>
          rw [List.flatMap_cons, encodeChar_eq, List.cons_append]
          exact List.nil_lt_cons _ _
  | cons first rest induction =>
      cases right with
      | nil => exact absurd less (List.not_lt_nil _)
      | cons second others =>
          rw [List.flatMap_cons, List.flatMap_cons]
          rcases List.cons_lt_cons_iff.mp less with lessFirst | ⟨rfl, lessRest⟩
          · exact encodeChar_append_lt lessFirst _ _
          · exact List.append_left_lt (induction lessRest)

theorem encode_lt_encode_iff {left right : String} : encode left < encode right ↔ left < right := by
  have mono {left right : String} (less : left < right) : encode left < encode right :=
    flatMap_encodeChar_lt (String.lt_iff_toList_lt.mp less)
  refine ⟨fun less => ?_, mono⟩
  rcases lt_trichotomy left right with isLess | rfl | greater
  · exact isLess
  · exact absurd less (List.lt_irrefl _)
  · exact absurd (mono greater) (List.lt_asymm less)

end TokenAuthority.Text

import TokenAuthority.Proofs.Text.Utf8
import TokenAuthority.Text.Percent

/-!
# Percent encoding is undone

Decoding reads back the bytes of every text that was encoded, as long as percent signs and whatever
lies beyond ASCII were reserved. So no two texts are encoded alike.
-/

namespace TokenAuthority.Text

namespace Percent

/-! ## Triples -/

theorem digit_ascii : ∀ value < 16, (digit value).toNat < 0x80 := by
  decide

theorem digitValue?_digit : ∀ value < 16,
    digitValue? (UInt8.ofNat (digit value).toNat) = some value := by
  decide

theorem bytes_triple (byte : UInt8) :
    (triple byte).flatMap encodeChar =
      [37, UInt8.ofNat (digit (byte.toNat / 16)).toNat,
        UInt8.ofNat (digit (byte.toNat % 16)).toNat] := by
  have small := byte.toNat_lt
  have percent : encodeChar '%' = [37] := by decide
  simp only [triple, List.flatMap_cons, List.flatMap_nil, percent,
    encodeChar_of_ascii (digit_ascii (byte.toNat / 16) (by omega)),
    encodeChar_of_ascii (digit_ascii (byte.toNat % 16) (by omega)), List.cons_append,
    List.nil_append, List.append_nil]

theorem decode_triple (byte : UInt8) (rest : List UInt8) :
    decode ((triple byte).flatMap encodeChar ++ rest) = byte :: decode rest := by
  have small := byte.toNat_lt
  have whole : byte.toNat / 16 * 16 + byte.toNat % 16 = byte.toNat := by omega
  have value : pairValue? (UInt8.ofNat (digit (byte.toNat / 16)).toNat)
      (UInt8.ofNat (digit (byte.toNat % 16)).toNat) = some byte := by
    simp only [pairValue?, digitValue?_digit _ (by omega : byte.toNat / 16 < 16),
      digitValue?_digit _ (by omega : byte.toNat % 16 < 16), Option.bind_eq_bind, Option.bind_some,
      whole, UInt8.ofNat_toNat]
  rw [bytes_triple, List.cons_append, List.cons_append, List.cons_append, decode]
  simp only [if_true, value, List.nil_append]

theorem decode_triples (bytes rest : List UInt8) :
    decode ((bytes.flatMap triple).flatMap encodeChar ++ rest) = bytes ++ decode rest := by
  induction bytes with
  | nil => rfl
  | cons byte bytes induction =>
      rw [List.flatMap_cons, List.flatMap_append, List.append_assoc, decode_triple, induction,
        List.cons_append]

theorem decode_plain {byte : UInt8} (plain : byte ≠ 37) (rest : List UInt8) :
    decode (byte :: rest) = byte :: decode rest := by
  match rest with
  | [] => rfl
  | [_] => rfl
  | _ :: _ :: _ =>
      rw [decode, if_neg plain]

/-! ## Texts -/

/-- Of what a set does not name, nothing is taken for the start of a triple, and one byte is enough
for it. -/
structure Lawful (reserved : Char → Bool) : Prop where
  percent : reserved '%' = true
  beyond : ∀ value, reserved value = false → value.toNat < 0x80

variable {reserved : Char → Bool}

theorem Lawful.byte_ne (lawful : Lawful reserved) {value : Char} (kept : reserved value = false) :
    UInt8.ofNat value.toNat ≠ 37 := by
  intro same
  have small := lawful.beyond value kept
  have point : value.toNat = 37 := by
    have equal := congrArg UInt8.toNat same
    rw [toNat_ofNat_byte (by omega)] at equal
    exact equal
  have isPercent : value = '%' := by
    rw [← Char.ofNat_toNat value, point]
  rw [isPercent, lawful.percent] at kept
  cases kept

theorem decode_encode (lawful : Lawful reserved) (text : List Char) :
    decode ((encode reserved text).flatMap encodeChar) = text.flatMap encodeChar := by
  induction text with
  | nil => rfl
  | cons value rest induction =>
      simp only [encode, List.flatMap_cons, List.flatMap_append] at induction ⊢
      by_cases isReserved : reserved value = true
      · rw [if_pos isReserved, decode_triples, induction]
      · have kept : reserved value = false := by simpa using isReserved
        rw [if_neg isReserved, List.flatMap_singleton,
          encodeChar_of_ascii (lawful.beyond value kept), List.cons_append, List.nil_append,
          decode_plain (lawful.byte_ne kept), induction]
        rfl

theorem encode_injective (lawful : Lawful reserved) {left right : List Char}
    (same : encode reserved left = encode reserved right) : left = right := by
  apply flatMap_encodeChar_injective
  rw [← decode_encode lawful left, same, decode_encode lawful right]

/-- What percent signs, digits and all that is not reserved have in common, every character that is
written has. -/
theorem forall_mem_encode {holds : Char → Prop} (percent : holds '%')
    (digits : ∀ value < 16, holds (digit value))
    (kept : ∀ value, reserved value = false → holds value) (text : List Char) :
    ∀ value ∈ encode reserved text, holds value := by
  intro value written
  rcases List.mem_flatMap.mp written with ⟨source, _, written⟩
  by_cases isReserved : reserved source = true
  · rw [if_pos isReserved] at written
    rcases List.mem_flatMap.mp written with ⟨byte, _, written⟩
    have small := byte.toNat_lt
    simp only [triple, List.mem_cons, List.not_mem_nil, or_false] at written
    rcases written with rfl | rfl | rfl
    · exact percent
    · exact digits _ (by omega)
    · exact digits _ (by omega)
  · rw [if_neg isReserved, List.mem_singleton] at written
    subst written
    exact kept value (by simpa using isReserved)

theorem encode_of_kept {text : List Char} (kept : ∀ value ∈ text, reserved value = false) :
    encode reserved text = text := by
  induction text with
  | nil => rfl
  | cons value rest induction =>
      rw [List.forall_mem_cons] at kept
      simp only [encode, List.flatMap_cons] at induction ⊢
      rw [induction kept.2, kept.1]
      rfl

end Percent

end TokenAuthority.Text

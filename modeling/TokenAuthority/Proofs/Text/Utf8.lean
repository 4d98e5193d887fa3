import TokenAuthority.Text.Utf8

/-!
# Written text is read as it was

The bytes of a character are read as that character and leave what stands behind them alone, so the
bytes of a text are read as its characters. The other way round, whatever is read stood there in the
bytes, so a text has no other bytes than those it was read from.
-/

namespace TokenAuthority.Text

/-! ## Single bytes -/

theorem within_eq_true_iff {low high : Nat} {byte : UInt8} :
    within low high byte = true ↔ low ≤ byte.toNat ∧ byte.toNat ≤ high := by
  simp [within]

theorem within_eq_false {low high : Nat} {byte : UInt8} (outside : high < byte.toNat) :
    within low high byte = false := by
  simp [within, outside]

theorem toNat_ofNat_byte {value : Nat} (small : value < 256) :
    (UInt8.ofNat value).toNat = value := by
  rw [UInt8.toNat_ofNat']
  exact Nat.mod_eq_of_lt small

theorem toNat_continuation (value : Nat) : (continuation value).toNat = 0x80 + value % 64 := by
  have small : 0x80 + value % 64 < 256 := by omega
  unfold continuation
  exact toNat_ofNat_byte small

theorem bits_continuation (value : Nat) : bits (continuation value) = value % 64 := by
  unfold bits
  rw [toNat_continuation]
  omega

theorem isContinuation_continuation (value : Nat) : isContinuation (continuation value) = true := by
  have low : value % 64 < 64 := Nat.mod_lt _ (by decide)
  apply within_eq_true_iff.mpr
  rw [toNat_continuation]
  omega

/-- A character is no half of a surrogate pair, and there is a last character. -/
theorem validPoint (value : Char) :
    value.toNat < 0xD800 ∨ (0xDFFF < value.toNat ∧ value.toNat < 0x110000) :=
  value.valid

namespace Glyph

/-! ## Forms of one to four bytes -/

theorem decodeBehind_one (read : List Glyph) {lead : UInt8} (rest : List UInt8)
    (isLead : lead.toNat < 0x80) :
    decodeBehind read (lead :: rest) =
      decodeBehind (.char (Char.ofNat lead.toNat) :: read) rest := by
  rw [decodeBehind.eq_def]
  simp only [isLead, if_true]

theorem decodeBehind_two (read : List Glyph) {lead second : UInt8} (rest : List UInt8)
    (isLead : within 0xC2 0xDF lead = true) (isSecond : isContinuation second = true) :
    decodeBehind read (lead :: second :: rest) =
      decodeBehind (.char (charOfTwo lead second) :: read) rest := by
  have bounds := within_eq_true_iff.mp isLead
  have high : ¬lead.toNat < 0x80 := by omega
  rw [decodeBehind.eq_def]
  simp only [high, isLead, isSecond, if_true, if_false]

theorem decodeBehind_three (read : List Glyph) {lead second third : UInt8} (rest : List UInt8)
    (isLead : within 0xE0 0xEF lead = true)
    (isSecond : within (boundsOfThree lead).1 (boundsOfThree lead).2 second = true)
    (isThird : isContinuation third = true) :
    decodeBehind read (lead :: second :: third :: rest) =
      decodeBehind (.char (charOfThree lead second third) :: read) rest := by
  have bounds := within_eq_true_iff.mp isLead
  have high : ¬lead.toNat < 0x80 := by omega
  have notTwo : within 0xC2 0xDF lead = false := within_eq_false (by omega)
  rw [decodeBehind.eq_def]
  simp only [high, notTwo, isLead, isSecond, isThird, if_true, if_false, Bool.false_eq_true]

theorem decodeBehind_four (read : List Glyph) {lead second third fourth : UInt8}
    (rest : List UInt8) (isLead : within 0xF0 0xF4 lead = true)
    (isSecond : within (boundsOfFour lead).1 (boundsOfFour lead).2 second = true)
    (isThird : isContinuation third = true) (isFourth : isContinuation fourth = true) :
    decodeBehind read (lead :: second :: third :: fourth :: rest) =
      decodeBehind (.char (charOfFour lead second third fourth) :: read) rest := by
  have bounds := within_eq_true_iff.mp isLead
  have high : ¬lead.toNat < 0x80 := by omega
  have notTwo : within 0xC2 0xDF lead = false := within_eq_false (by omega)
  have notThree : within 0xE0 0xEF lead = false := within_eq_false (by omega)
  rw [decodeBehind.eq_def]
  simp only [high, notTwo, notThree, isLead, isSecond, isThird, isFourth, if_true, if_false,
    Bool.false_eq_true]

/-! ## Characters -/

theorem within_boundsOfThree {lead second : UInt8} (low : lead.toNat = 0xE0 → 0xA0 ≤ second.toNat)
    (high : lead.toNat = 0xED → second.toNat ≤ 0x9F) (isSecond : isContinuation second = true) :
    within (boundsOfThree lead).1 (boundsOfThree lead).2 second = true := by
  have bounds := within_eq_true_iff.mp isSecond
  simp only [boundsOfThree, ← UInt8.toNat_inj]
  split
  · rename_i isLow
    exact within_eq_true_iff.mpr ⟨low isLow, bounds.2⟩
  · split
    · rename_i isHigh
      exact within_eq_true_iff.mpr ⟨bounds.1, high isHigh⟩
    · exact isSecond

theorem within_boundsOfFour {lead second : UInt8} (low : lead.toNat = 0xF0 → 0x90 ≤ second.toNat)
    (high : lead.toNat = 0xF4 → second.toNat ≤ 0x8F) (isSecond : isContinuation second = true) :
    within (boundsOfFour lead).1 (boundsOfFour lead).2 second = true := by
  have bounds := within_eq_true_iff.mp isSecond
  simp only [boundsOfFour, ← UInt8.toNat_inj]
  split
  · rename_i isLow
    exact within_eq_true_iff.mpr ⟨low isLow, bounds.2⟩
  · split
    · rename_i isHigh
      exact within_eq_true_iff.mpr ⟨bounds.1, high isHigh⟩
    · exact isSecond

theorem decodeBehind_encodeChar (read : List Glyph) (value : Char) (rest : List UInt8) :
    decodeBehind read (encodeChar value ++ rest) = decodeBehind (.char value :: read) rest := by
  have valid := validPoint value
  unfold encodeChar
  dsimp only
  -- One case for each number of bytes that a character may take.
  split
  · have lead : (UInt8.ofNat value.toNat).toNat = value.toNat := toNat_ofNat_byte (by omega)
    rw [List.singleton_append, decodeBehind_one _ _ (by omega), lead, Char.ofNat_toNat]
  split
  · have lead : (UInt8.ofNat (0xC0 + value.toNat / 64)).toNat = 0xC0 + value.toNat / 64 :=
      toNat_ofNat_byte (by omega)
    have same : (value.toNat / 64) * 64 + value.toNat % 64 = value.toNat := by omega
    rw [List.cons_append, List.singleton_append, decodeBehind_two, charOfTwo, lead,
      bits_continuation, Nat.add_sub_cancel_left, same, Char.ofNat_toNat]
    · exact within_eq_true_iff.mpr (by omega)
    · exact isContinuation_continuation _
  split
  · have lead : (UInt8.ofNat (0xE0 + value.toNat / 4096)).toNat = 0xE0 + value.toNat / 4096 :=
      toNat_ofNat_byte (by omega)
    have same : (value.toNat / 4096) * 4096 + (value.toNat / 64 % 64) * 64 + value.toNat % 64 =
        value.toNat := by
      omega
    rw [List.cons_append, List.cons_append, List.singleton_append, decodeBehind_three, charOfThree,
      lead, bits_continuation, bits_continuation, Nat.add_sub_cancel_left, same, Char.ofNat_toNat]
    · exact within_eq_true_iff.mpr (by omega)
    · apply within_boundsOfThree _ _ (isContinuation_continuation _)
      · rw [lead, toNat_continuation]
        omega
      · rw [lead, toNat_continuation]
        omega
    · exact isContinuation_continuation _
  · have lead : (UInt8.ofNat (0xF0 + value.toNat / 262144)).toNat = 0xF0 + value.toNat / 262144 :=
      toNat_ofNat_byte (by omega)
    have same : (value.toNat / 262144) * 262144 + (value.toNat / 4096 % 64) * 4096 +
        (value.toNat / 64 % 64) * 64 + value.toNat % 64 = value.toNat := by
      omega
    rw [List.cons_append, List.cons_append, List.cons_append, List.singleton_append,
      decodeBehind_four, charOfFour, lead, bits_continuation, bits_continuation, bits_continuation,
      Nat.add_sub_cancel_left, same, Char.ofNat_toNat]
    · exact within_eq_true_iff.mpr (by omega)
    · apply within_boundsOfFour _ _ (isContinuation_continuation _)
      · rw [lead, toNat_continuation]
        omega
      · rw [lead, toNat_continuation]
        omega
    · exact isContinuation_continuation _
    · exact isContinuation_continuation _

/-! ## Texts -/

theorem decodeBehind_flatMap_encodeChar (read : List Glyph) (chars : List Char) :
    decodeBehind read (chars.flatMap encodeChar) = read.reverse ++ chars.map .char := by
  induction chars generalizing read with
  | nil =>
      rw [List.flatMap_nil, decodeBehind.eq_def]
      simp
  | cons value rest induction =>
      rw [List.flatMap_cons, decodeBehind_encodeChar, induction]
      simp

theorem decode_encode (text : String) : decode (encode text) = ofString text := by
  rw [decode, encode, decodeBehind_flatMap_encodeChar]
  rfl

end Glyph

theorem decode?_encode (text : String) : decode? (encode text) = some text := by
  have characters (chars : List Char) : (chars.map Glyph.char).mapM Glyph.char? = some chars := by
    induction chars with
    | nil => rfl
    | cons value rest induction => simp [List.mapM_cons, Glyph.char?, induction]
  rw [decode?, Glyph.decode_encode, Glyph.ofString, characters, Option.map_some,
    String.ofList_toList]

theorem encodeChar_of_ascii {value : Char} (ascii : value.toNat < 0x80) :
    encodeChar value = [UInt8.ofNat value.toNat] := by
  simp only [encodeChar, ascii, if_true]

theorem flatMap_encodeChar_injective {left right : List Char}
    (same : left.flatMap encodeChar = right.flatMap encodeChar) : left = right := by
  have glyphs : left.map Glyph.char = right.map Glyph.char := by
    simpa only [Glyph.decodeBehind_flatMap_encodeChar, List.reverse_nil, List.nil_append] using
      congrArg (Glyph.decodeBehind []) same
  exact (List.map_inj_right fun _ _ equal => Glyph.char.inj equal).mp glyphs

/-! ## Bytes that were read -/

theorem bits_of_isContinuation {byte : UInt8} (is : isContinuation byte = true) :
    byte.toNat = 0x80 + bits byte ∧ bits byte < 64 := by
  have bounds := within_eq_true_iff.mp is
  unfold bits
  omega

theorem continuation_eq {value : Nat} {byte : UInt8} (is : isContinuation byte = true)
    (same : value % 64 = bits byte) : continuation value = byte := by
  apply UInt8.toNat_inj.mp
  rw [toNat_continuation, same, (bits_of_isContinuation is).1]

theorem toNat_ofNat_of_valid {point : Nat}
    (valid : point < 0xD800 ∨ (0xDFFF < point ∧ point < 0x110000)) :
    (Char.ofNat point).toNat = point := by
  have isValid : point.isValidChar := valid
  rw [Char.ofNat, dif_pos isValid]
  rfl

theorem encodeChar_charOfTwo {lead second : UInt8} (isLead : within 0xC2 0xDF lead = true)
    (isSecond : isContinuation second = true) :
    encodeChar (charOfTwo lead second) = [lead, second] := by
  have leadBounds := within_eq_true_iff.mp isLead
  have ⟨_, small⟩ := bits_of_isContinuation isSecond
  have point : (charOfTwo lead second).toNat = (lead.toNat - 0xC0) * 64 + bits second :=
    toNat_ofNat_of_valid (by omega)
  have isFirst : 0xC0 + (charOfTwo lead second).toNat / 64 = lead.toNat := by omega
  have isLast : continuation (charOfTwo lead second).toNat = second :=
    continuation_eq isSecond (by omega)
  rw [encodeChar, if_neg (by omega), if_pos (by omega), isFirst, isLast, UInt8.ofNat_toNat]

theorem bounds_of_boundsOfThree {lead second : UInt8}
    (isSecond : within (boundsOfThree lead).1 (boundsOfThree lead).2 second = true) :
    isContinuation second = true ∧ (lead.toNat = 0xE0 → 0xA0 ≤ second.toNat) ∧
      (lead.toNat = 0xED → second.toNat ≤ 0x9F) := by
  have bounds := within_eq_true_iff.mp isSecond
  simp only [boundsOfThree, ← UInt8.toNat_inj] at bounds
  rw [isContinuation, within_eq_true_iff]
  split at bounds
  · rename_i isLow
    change lead.toNat = 0xE0 at isLow
    dsimp only at bounds
    omega
  · rename_i notLow
    change ¬ lead.toNat = 0xE0 at notLow
    split at bounds
    · dsimp only at bounds
      omega
    · rename_i notHigh
      change ¬ lead.toNat = 0xED at notHigh
      dsimp only at bounds
      omega

theorem bounds_of_boundsOfFour {lead second : UInt8}
    (isSecond : within (boundsOfFour lead).1 (boundsOfFour lead).2 second = true) :
    isContinuation second = true ∧ (lead.toNat = 0xF0 → 0x90 ≤ second.toNat) ∧
      (lead.toNat = 0xF4 → second.toNat ≤ 0x8F) := by
  have bounds := within_eq_true_iff.mp isSecond
  simp only [boundsOfFour, ← UInt8.toNat_inj] at bounds
  rw [isContinuation, within_eq_true_iff]
  split at bounds
  · rename_i isLow
    change lead.toNat = 0xF0 at isLow
    dsimp only at bounds
    omega
  · rename_i notLow
    change ¬ lead.toNat = 0xF0 at notLow
    split at bounds
    · dsimp only at bounds
      omega
    · rename_i notHigh
      change ¬ lead.toNat = 0xF4 at notHigh
      dsimp only at bounds
      omega

theorem encodeChar_charOfThree {lead second third : UInt8} (isLead : within 0xE0 0xEF lead = true)
    (isSecond : within (boundsOfThree lead).1 (boundsOfThree lead).2 second = true)
    (isThird : isContinuation third = true) :
    encodeChar (charOfThree lead second third) = [lead, second, third] := by
  have leadBounds := within_eq_true_iff.mp isLead
  rcases bounds_of_boundsOfThree isSecond with ⟨follows, low, high⟩
  have ⟨secondBits, secondSmall⟩ := bits_of_isContinuation follows
  have ⟨_, thirdSmall⟩ := bits_of_isContinuation isThird
  have point : (charOfThree lead second third).toNat =
      (lead.toNat - 0xE0) * 4096 + bits second * 64 + bits third :=
    toNat_ofNat_of_valid (by omega)
  have isFirst : 0xE0 + (charOfThree lead second third).toNat / 4096 = lead.toNat := by omega
  have isNext : continuation ((charOfThree lead second third).toNat / 64) = second :=
    continuation_eq follows (by omega)
  have isLast : continuation (charOfThree lead second third).toNat = third :=
    continuation_eq isThird (by omega)
  rw [encodeChar, if_neg (by omega), if_neg (by omega), if_pos (by omega), isFirst, isNext, isLast,
    UInt8.ofNat_toNat]

theorem encodeChar_charOfFour {lead second third fourth : UInt8}
    (isLead : within 0xF0 0xF4 lead = true)
    (isSecond : within (boundsOfFour lead).1 (boundsOfFour lead).2 second = true)
    (isThird : isContinuation third = true) (isFourth : isContinuation fourth = true) :
    encodeChar (charOfFour lead second third fourth) = [lead, second, third, fourth] := by
  have leadBounds := within_eq_true_iff.mp isLead
  rcases bounds_of_boundsOfFour isSecond with ⟨follows, low, high⟩
  have ⟨secondBits, secondSmall⟩ := bits_of_isContinuation follows
  have ⟨_, thirdSmall⟩ := bits_of_isContinuation isThird
  have ⟨_, fourthSmall⟩ := bits_of_isContinuation isFourth
  have point : (charOfFour lead second third fourth).toNat =
      (lead.toNat - 0xF0) * 262144 + bits second * 4096 + bits third * 64 + bits fourth :=
    toNat_ofNat_of_valid (by omega)
  generalize (charOfFour lead second third fourth) = value at *
  have isFirst : 0xF0 + value.toNat / 262144 = lead.toNat := by omega
  have isSecond : continuation (value.toNat / 4096) = second := continuation_eq follows (by omega)
  have isNext : continuation (value.toNat / 64) = third := continuation_eq isThird (by omega)
  have isLast : continuation value.toNat = fourth := continuation_eq isFourth (by omega)
  rw [encodeChar, if_neg (by omega), if_neg (by omega), if_neg (by omega), isFirst, isSecond,
    isNext, isLast, UInt8.ofNat_toNat]

namespace Glyph

def bytes : Glyph → List UInt8
  | .char value => encodeChar value
  | .broken bytes => bytes

theorem flatMap_bytes_decodeBehind (read : List Glyph) (rest : List UInt8) :
    (decodeBehind read rest).flatMap bytes = read.reverse.flatMap bytes ++ rest := by
  fun_induction decodeBehind read rest with
  | case1 => simp
  | case2 read lead rest isLead induction =>
      have point : (Char.ofNat lead.toNat).toNat = lead.toNat := toNat_ofNat_of_valid (by omega)
      have lone : encodeChar (Char.ofNat lead.toNat) = [lead] := by
        rw [encodeChar_of_ascii (by omega), point, UInt8.ofNat_toNat]
      simp [induction, bytes, lone]
  | case3 read lead _ isLead second rest isSecond induction =>
      simp [induction, bytes, encodeChar_charOfTwo isLead isSecond]
  | case6 read lead _ _ isLead second isSecond third rest isThird induction =>
      simp [induction, bytes, encodeChar_charOfThree isLead isSecond isThird]
  | case11 read lead _ _ _ isLead second isSecond third isThird fourth rest isFourth induction =>
      simp [induction, bytes, encodeChar_charOfFour isLead isSecond isThird isFourth]
  | _ =>
      rename_i induction
      simp [induction, bytes]

theorem eq_map_of_mapM_char? {glyphs : List Glyph} {chars : List Char}
    (isChars : glyphs.mapM char? = some chars) : glyphs = chars.map .char := by
  induction glyphs generalizing chars with
  | nil =>
      cases isChars
      rfl
  | cons glyph rest induction =>
      simp only [List.mapM_cons, Option.bind_eq_bind, Option.bind_eq_some_iff, Option.pure_def,
        Option.some.injEq] at isChars
      rcases isChars with ⟨value, isValue, others, areOthers, rfl⟩
      cases glyph with
      | broken bytes => cases isValue
      | char held =>
          cases isValue
          rw [induction areOthers, List.map_cons]

end Glyph

theorem encode_of_decode? {bytes : List UInt8} {text : String}
    (isText : decode? bytes = some text) : encode text = bytes := by
  rcases Option.map_eq_some_iff.mp isText with ⟨chars, isChars, rfl⟩
  have read := Glyph.flatMap_bytes_decodeBehind [] bytes
  rw [← Glyph.decode, Glyph.eq_map_of_mapM_char? isChars, List.flatMap_map] at read
  simpa [encode, Glyph.bytes] using read

end TokenAuthority.Text

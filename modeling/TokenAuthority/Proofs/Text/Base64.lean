import Mathlib.Data.List.TakeWhile
import TokenAuthority.Text.Base64
import TokenAuthority.Text.Blank

/-!
# Base64 and back

What is written is read as the bytes it was written from. Without filling it consists of digits
only, and whatever is read consists of digits and of what they are filled up with.
-/

namespace TokenAuthority.Text.Base64

/-! ## Digits -/

def Lawful (kind : Base64) : Prop :=
  ∀ value < 64, kind.digitValue? (kind.digit value) = some value

theorem lawful_urlSafe : urlSafe.Lawful := by
  unfold Lawful
  decide

variable {kind : Base64}

theorem ofNat_eq {value : Nat} {byte : UInt8} (same : value = byte.toNat) :
    UInt8.ofNat value = byte := by
  rw [same, UInt8.ofNat_toNat]

/-! ## Groups of four digits -/

theorem decodeBehind_group (lawful : kind.Lawful) (read : List UInt8) (first second third : UInt8)
    (rest : List Char) :
    let group := first.toNat * 65536 + second.toNat * 256 + third.toNat
    kind.decodeBehind read
        (kind.digit (group / 262144) :: kind.digit (group / 4096 % 64) ::
          kind.digit (group / 64 % 64) :: kind.digit (group % 64) :: rest) =
      kind.decodeBehind (third :: second :: first :: read) rest := by
  have firstSmall := first.toNat_lt
  have secondSmall := second.toNat_lt
  have thirdSmall := third.toNat_lt
  intro group
  have small : group < 16777216 := by omega
  have whole : group / 262144 * 262144 + group / 4096 % 64 * 4096 + group / 64 % 64 * 64 +
      group % 64 = group := by
    omega
  rw [decodeBehind, lawful _ (by omega), lawful _ (by omega), lawful _ (by omega),
    lawful _ (by omega)]
  simp only [Option.bind_eq_bind, Option.bind_some, whole]
  rw [ofNat_eq (by omega : group % 256 = third.toNat),
    ofNat_eq (by omega : group / 256 % 256 = second.toNat),
    ofNat_eq (by omega : group / 65536 = first.toNat)]

theorem decodeBehind_pair (lawful : kind.Lawful) (read : List UInt8) (first second : UInt8) :
    let group := first.toNat * 1024 + second.toNat * 4
    kind.decodeBehind read
        [kind.digit (group / 4096), kind.digit (group / 64 % 64), kind.digit (group % 64)] =
      some (read.reverse ++ [first, second]) := by
  have firstSmall := first.toNat_lt
  have secondSmall := second.toNat_lt
  intro group
  have whole : group / 4096 * 4096 + group / 64 % 64 * 64 + group % 64 = group := by omega
  rw [decodeBehind, lawful _ (by omega), lawful _ (by omega), lawful _ (by omega)]
  simp only [Option.bind_eq_bind, Option.bind_some, whole]
  rw [if_pos (by omega), ofNat_eq (by omega : group / 1024 = first.toNat),
    ofNat_eq (by omega : group / 4 % 256 = second.toNat)]

theorem decodeBehind_single (lawful : kind.Lawful) (read : List UInt8) (first : UInt8) :
    let group := first.toNat * 16
    kind.decodeBehind read [kind.digit (group / 64), kind.digit (group % 64)] =
      some (read.reverse ++ [first]) := by
  have firstSmall := first.toNat_lt
  intro group
  have whole : group / 64 * 64 + group % 64 = group := by omega
  rw [decodeBehind, lawful _ (by omega), lawful _ (by omega)]
  simp only [Option.bind_eq_bind, Option.bind_some, whole]
  rw [if_pos (by omega), ofNat_eq (by omega : group / 16 = first.toNat)]

/-! ## Texts -/

theorem encodeBehind_append (front written : List Char) (bytes : List UInt8) :
    kind.encodeBehind (written ++ front) bytes =
      front.reverse ++ kind.encodeBehind written bytes := by
  induction written, bytes using encodeBehind.induct kind with
  | case1 written first second third rest group induction =>
      rw [encodeBehind, encodeBehind]
      exact induction
  | case2 written first second => simp [encodeBehind]
  | case3 written first => simp [encodeBehind]
  | case4 written => simp [encodeBehind]

theorem encode_group (first second third : UInt8) (rest : List UInt8) :
    let group := first.toNat * 65536 + second.toNat * 256 + third.toNat
    kind.encode (first :: second :: third :: rest) =
      kind.digit (group / 262144) :: kind.digit (group / 4096 % 64) ::
        kind.digit (group / 64 % 64) :: kind.digit (group % 64) :: kind.encode rest := by
  intro group
  unfold encode
  rw [encodeBehind]
  exact encodeBehind_append _ [] rest

theorem encode_pair (unpadded : kind.padded = false) (first second : UInt8) :
    let group := first.toNat * 1024 + second.toNat * 4
    kind.encode [first, second] =
      [kind.digit (group / 4096), kind.digit (group / 64 % 64), kind.digit (group % 64)] := by
  simp [encode, encodeBehind, filling, unpadded]

theorem encode_single (unpadded : kind.padded = false) (first : UInt8) :
    let group := first.toNat * 16
    kind.encode [first] = [kind.digit (group / 64), kind.digit (group % 64)] := by
  simp [encode, encodeBehind, filling, unpadded]

theorem decodeBehind_encode (lawful : kind.Lawful) (unpadded : kind.padded = false) :
    (read bytes : List UInt8) →
      kind.decodeBehind read (kind.encode bytes) = some (read.reverse ++ bytes)
  | read, first :: second :: third :: rest => by
      rw [encode_group, decodeBehind_group lawful, decodeBehind_encode lawful unpadded]
      simp
  | read, [first, second] => by
      rw [encode_pair unpadded, decodeBehind_pair lawful]
  | read, [first] => by
      rw [encode_single unpadded, decodeBehind_single lawful]
  | read, [] => by simp [encode, encodeBehind, decodeBehind]

theorem decode?_encode (lawful : kind.Lawful) (unpadded : kind.padded = false)
    (bytes : List UInt8) : kind.decode? (kind.encode bytes) = some bytes := by
  simp [decode?, unfilled?, unpadded, decodeBehind_encode lawful unpadded]

theorem eq_digit_of_mem_encode (unpadded : kind.padded = false) : (bytes : List UInt8) →
    ∀ value ∈ kind.encode bytes, ∃ place < 64, value = kind.digit place
  | first :: second :: third :: rest => by
      have firstSmall := first.toNat_lt
      have secondSmall := second.toNat_lt
      have thirdSmall := third.toNat_lt
      rw [encode_group]
      simp only [List.forall_mem_cons]
      refine ⟨⟨_, ?_, rfl⟩, ⟨_, ?_, rfl⟩, ⟨_, ?_, rfl⟩, ⟨_, ?_, rfl⟩,
        eq_digit_of_mem_encode unpadded rest⟩
      all_goals omega
  | [first, second] => by
      have firstSmall := first.toNat_lt
      have secondSmall := second.toNat_lt
      rw [encode_pair unpadded]
      simp only [List.forall_mem_cons]
      refine ⟨⟨_, ?_, rfl⟩, ⟨_, ?_, rfl⟩, ⟨_, ?_, rfl⟩, by simp⟩
      all_goals omega
  | [first] => by
      have firstSmall := first.toNat_lt
      rw [encode_single unpadded]
      simp only [List.forall_mem_cons]
      refine ⟨⟨_, ?_, rfl⟩, ⟨_, ?_, rfl⟩, by simp⟩
      all_goals omega
  | [] => by simp [encode, encodeBehind]

theorem forall_mem_encode {holds : Char → Prop} (digits : ∀ place < 64, holds (urlSafe.digit place))
    (bytes : List UInt8) : ∀ value ∈ urlSafe.encode bytes, holds value := by
  intro value member
  rcases eq_digit_of_mem_encode rfl bytes value member with ⟨place, small, same⟩
  rw [same]
  exact digits place small

theorem not_blank_of_mem_encode {bytes : List UInt8} {value : Char}
    (member : value ∈ urlSafe.encode bytes) : isBlank value = false ∧ value ≠ '.' :=
  @forall_mem_encode (fun value => isBlank value = false ∧ value ≠ '.') (by decide) bytes value
    member

/-! ## Filling -/

theorem lawful_standard : standard.Lawful := by
  unfold Lawful
  decide

theorem unfilled?_group (padded : kind.padded = true) (first second third : Char) {fourth : Char}
    (isDigit : fourth ≠ '=') (text : List Char) :
    kind.unfilled? (first :: second :: third :: fourth :: text) =
      (kind.unfilled? text).map fun digits => first :: second :: third :: fourth :: digits := by
  have group : ([fourth, third, second, first].dropWhile (· == '=')) =
      [fourth, third, second, first] := by
    simp [isDigit]
  have stripped :
      ((first :: second :: third :: fourth :: text).reverse.dropWhile (· == '=')).reverse =
        first :: second :: third :: fourth :: (text.reverse.dropWhile (· == '=')).reverse := by
    simp only [List.reverse_cons, List.append_assoc, List.cons_append, List.nil_append]
    rw [List.dropWhile_append, group]
    split
    · rename_i empty
      rw [List.isEmpty_iff.mp empty]
      rfl
    · simp
  simp only [unfilled?, padded, if_true, stripped, List.length_cons]
  generalize (text.reverse.dropWhile (· == '=')).reverse = digits
  have fits : text.length + 1 + 1 + 1 + 1 = digits.length + 1 + 1 + 1 + 1 +
        (4 - (digits.length + 1 + 1 + 1 + 1) % 4) % 4 ↔
      text.length = digits.length + (4 - digits.length % 4) % 4 := by omega
  simp only [fits]
  split <;> rfl

theorem exists_unfilled (lawful : kind.Lawful) (padded : kind.padded = true)
    (noFill : ∀ place < 64, kind.digit place ≠ '=') : (bytes : List UInt8) →
      ∃ digits, kind.unfilled? (kind.encode bytes) = some digits ∧
        ∀ read, kind.decodeBehind read digits = some (read.reverse ++ bytes)
  | first :: second :: third :: rest => by
      rcases exists_unfilled lawful padded noFill rest with ⟨digits, isRest, reads⟩
      have isDigit := noFill
        ((first.toNat * 65536 + second.toNat * 256 + third.toNat) % 64) (by omega)
      rw [encode_group, unfilled?_group padded _ _ _ isDigit, isRest]
      refine ⟨_, rfl, ?_⟩
      intro read
      rw [decodeBehind_group lawful, reads]
      simp
  | [first, second] => by
      have isDigit := noFill ((first.toNat * 1024 + second.toNat * 4) % 64) (by omega)
      refine ⟨_, ?_, fun read => decodeBehind_pair lawful read first second⟩
      simp [encode, encodeBehind, filling, unfilled?, padded, isDigit]
  | [first] => by
      have isDigit := noFill (first.toNat * 16 % 64) (by omega)
      refine ⟨_, ?_, fun read => decodeBehind_single lawful read first⟩
      simp [encode, encodeBehind, filling, unfilled?, padded, isDigit, List.replicate]
  | [] => ⟨[], by simp [encode, encodeBehind, unfilled?, padded], by simp [decodeBehind]⟩

theorem decode?_encode_standard (bytes : List UInt8) :
    standard.decode? (standard.encode bytes) = some bytes := by
  have noFill : ∀ place < 64, standard.digit place ≠ '=' := by decide
  rcases exists_unfilled lawful_standard rfl noFill bytes with ⟨digits, isText, reads⟩
  rw [decode?, isText]
  exact reads []

/-! ## What is read -/

theorem isDigit_of_decodeBehind {read bytes : List UInt8} {text : List Char}
    (isRead : kind.decodeBehind read text = some bytes) :
    ∀ value ∈ text, (kind.digitValue? value).isSome = true := by
  have isDigit : ∀ {value : Char} {place : Nat}, kind.digitValue? value = some place →
      (kind.digitValue? value).isSome = true :=
    fun found => Option.isSome_iff_exists.mpr ⟨_, found⟩
  induction read, text using decodeBehind.induct with
  | case1 read first second third fourth rest induction =>
      simp only [decodeBehind, Option.bind_eq_bind, Option.bind_eq_some_iff] at isRead
      rcases isRead with ⟨_, isFirst, _, isSecond, _, isThird, _, isFourth, isRest⟩
      simp only [List.forall_mem_cons]
      exact ⟨isDigit isFirst, isDigit isSecond, isDigit isThird, isDigit isFourth,
        induction _ _ _ _ isRest⟩
  | case2 read first second third =>
      simp only [decodeBehind, Option.bind_eq_bind, Option.bind_eq_some_iff] at isRead
      rcases isRead with ⟨_, isFirst, _, isSecond, _, isThird, _⟩
      simp only [List.forall_mem_cons]
      exact ⟨isDigit isFirst, isDigit isSecond, isDigit isThird, by simp⟩
  | case3 read first second =>
      simp only [decodeBehind, Option.bind_eq_bind, Option.bind_eq_some_iff] at isRead
      rcases isRead with ⟨_, isFirst, _, isSecond, _⟩
      simp only [List.forall_mem_cons]
      exact ⟨isDigit isFirst, isDigit isSecond, by simp⟩
  | case4 read only => cases isRead
  | case5 read => simp

/-- What is filled up is made of fill and of what is left when it is taken off. -/
theorem mem_of_unfilled? {text digits : List Char}
    (isUnfilled : kind.unfilled? text = some digits) :
    ∀ value ∈ text, value = '=' ∨ value ∈ digits := by
  intro value member
  unfold unfilled? at isUnfilled
  split at isUnfilled
  · dsimp only at isUnfilled
    split at isUnfilled
    · rw [← Option.some.inj isUnfilled, List.mem_reverse]
      rw [← List.mem_reverse,
        ← @List.takeWhile_append_dropWhile _ (· == '=') text.reverse, List.mem_append] at member
      rcases member with isFill | isDigit
      · have same := List.mem_takeWhile_imp isFill
        exact .inl (beq_iff_eq.mp same)
      · exact .inr isDigit
    · cases isUnfilled
  · rw [← Option.some.inj isUnfilled]
    exact .inr member

theorem isDigit_of_decode? {bytes : List UInt8} {text : List Char}
    (isRead : kind.decode? text = some bytes) :
    ∀ value ∈ text, value = '=' ∨ (kind.digitValue? value).isSome = true := by
  rcases Option.bind_eq_some_iff.mp isRead with ⟨digits, areDigits, isBytes⟩
  intro value member
  rcases mem_of_unfilled? areDigits value member with isFill | isDigit
  · exact .inl isFill
  · exact .inr (isDigit_of_decodeBehind isBytes value isDigit)

theorem digitValue?_of_isBlank {value : Char} (blank : Text.isBlank value = true) :
    standard.digitValue? value = none := by
  have notLast : value ≠ '+' ∧ value ≠ '/' := by
    constructor
    · intro isPlus
      rw [isPlus] at blank
      cases blank
    · intro isSlash
      rw [isSlash] at blank
      cases blank
  simp only [Text.isBlank, Bool.or_eq_true, Bool.and_eq_true, decide_eq_true_eq,
    beq_iff_eq] at blank
  unfold digitValue?
  dsimp only
  rw [if_neg (by omega), if_neg (by omega), if_neg (by omega)]
  simp only [standard, notLast.1, notLast.2, if_false]

theorem not_blank_of_decode? {bytes : List UInt8} {text : List Char}
    (isRead : standard.decode? text = some bytes) :
    ∀ value ∈ text, Text.isBlank value = false ∧ value ≠ '-' := by
  intro value member
  rcases isDigit_of_decode? isRead value member with rfl | isDigit
  · decide
  · constructor
    · rw [Bool.eq_false_iff]
      intro blank
      rw [digitValue?_of_isBlank blank] at isDigit
      cases isDigit
    · intro isDash
      rw [isDash] at isDigit
      cases isDigit

end TokenAuthority.Text.Base64

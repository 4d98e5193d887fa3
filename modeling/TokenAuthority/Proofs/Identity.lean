import TokenAuthority.Identity

/-!
# Ids of callers

The subject of claims may be any text that is read as an id. Of these texts, the printed form of the
id is the one of 36 characters without an upper-case letter, and it is read as that id.
-/

namespace TokenAuthority

namespace Uuid

/-! ## Digits -/

theorem lt_of_digit? {value : Char} {digit : Fin 16} (isDigit : digit? value = some digit) :
    value.toNat < 103 := by
  simp only [digit?] at isDigit
  split at isDigit
  · omega
  split at isDigit
  · omega
  split at isDigit
  · omega
  · cases isDigit

theorem digitChar_of_digit? {value : Char} {digit : Fin 16} (isDigit : digit? value = some digit)
    (notUpper : value.isUpper = false) : digitChar digit = value := by
  have all : ∀ code < 103, (Char.ofNat code).isUpper = false →
      (digit? (Char.ofNat code)).all (digitChar · = Char.ofNat code) = true := by
    decide +kernel
  have printed := all value.toNat (lt_of_digit? isDigit)
  rw [Char.ofNat_toNat] at printed
  simpa [isDigit] using printed notUpper

theorem isUpper_digitChar (digit : Fin 16) : (digitChar digit).isUpper = false := by
  revert digit
  decide

theorem map_digitChar_of_mapM {chars : List Char} {digits : List (Fin 16)}
    (areDigits : chars.mapM digit? = some digits)
    (notUpper : ∀ value ∈ chars, value.isUpper = false) : digits.map digitChar = chars := by
  induction chars generalizing digits with
  | nil =>
      cases areDigits
      rfl
  | cons value rest induction =>
      simp only [List.mapM_cons, Option.bind_eq_bind, Option.bind_eq_some_iff, Option.pure_def,
        Option.some.injEq] at areDigits
      rcases areDigits with ⟨digit, isDigit, others, areOthers, rfl⟩
      rw [List.forall_mem_cons] at notUpper
      rw [List.map_cons, digitChar_of_digit? isDigit notUpper.1, induction areOthers notUpper.2]

/-! ## Groups -/

def grouped (first second third fourth fifth : List Char) : List Char :=
  first ++ '-' :: (second ++ '-' :: (third ++ '-' :: (fourth ++ '-' :: fifth)))

theorem drop_eq_group {chars : List Char} {place : Nat} (hyphen : chars[place]? = some '-') :
    chars.drop place =
      '-' :: ((chars.drop (place + 1)).take 4 ++ chars.drop (place + 5)) := by
  rcases List.getElem?_eq_some_iff.mp hyphen with ⟨inside, isHyphen⟩
  have behind : chars.drop (place + 5) = (chars.drop (place + 1)).drop 4 := by
    rw [List.drop_drop]
  rw [List.drop_eq_getElem_cons inside, isHyphen, behind, List.take_append_drop]

theorem ofGrouped?_eq_some {chars : List Char} {id : Uuid} (read : ofGrouped? chars = some id) :
    ∃ first second third fourth fifth : List Char,
      first.length = 8 ∧ second.length = 4 ∧ third.length = 4 ∧ fourth.length = 4 ∧
        chars = grouped first second third fourth fifth ∧
        ofPlain? (first ++ second ++ third ++ fourth ++ fifth) = some id := by
  unfold ofGrouped? at read
  split at read
  · rename_i shape
    rcases shape with ⟨length, hyphen8, hyphen13, hyphen18, hyphen23⟩
    refine ⟨chars.take 8, (chars.drop 9).take 4, (chars.drop 14).take 4, (chars.drop 19).take 4,
      chars.drop 24, by simp [length], by simp [length], by simp [length], by simp [length], ?_,
      read⟩
    rcases List.getElem?_eq_some_iff.mp hyphen23 with ⟨inside, isHyphen⟩
    have last : chars.drop 23 = '-' :: chars.drop 24 := by
      rw [List.drop_eq_getElem_cons inside, isHyphen]
    calc chars = chars.take 8 ++ chars.drop 8 := (List.take_append_drop 8 chars).symm
      _ = _ := by
        rw [drop_eq_group hyphen8, drop_eq_group hyphen13, drop_eq_group hyphen18, last]
        rfl
  · cases read

theorem ofPlain?_eq_some {chars : List Char} {id : Uuid} (read : ofPlain? chars = some id) :
    chars.mapM digit? = some id.digits := by
  unfold ofPlain? at read
  split at read
  · rename_i digits areDigits
    split at read
    · cases read
      exact areDigits
    · cases read
  · cases read

theorem drop_of_eq_append {chars front rest : List Char} {place size : Nat}
    (cut : chars.drop place = front ++ rest) (length : front.length = size) :
    chars.drop (place + size) = rest := by
  rw [← List.drop_drop, cut, ← length, List.drop_left]

theorem chars_eq_grouped {id : Uuid} {first second third fourth fifth : List Char}
    (digits : id.digits.map digitChar = first ++ second ++ third ++ fourth ++ fifth)
    (length1 : first.length = 8) (length2 : second.length = 4) (length3 : third.length = 4)
    (length4 : fourth.length = 4) : id.chars = grouped first second third fourth fifth := by
  have take8 : (id.digits.map digitChar).take 8 = first := by simp [digits, ← length1]
  have drop8 : (id.digits.map digitChar).drop 8 = second ++ (third ++ (fourth ++ fifth)) := by
    simp [digits, ← length1]
  have drop12 : (id.digits.map digitChar).drop 12 = third ++ (fourth ++ fifth) :=
    drop_of_eq_append drop8 length2
  have drop16 : (id.digits.map digitChar).drop 16 = fourth ++ fifth :=
    drop_of_eq_append drop12 length3
  have drop20 : (id.digits.map digitChar).drop 20 = fifth := drop_of_eq_append drop16 length4
  simp only [chars, take8, drop8, drop12, drop16, drop20, grouped, List.take_left' length2,
    List.take_left' length3, List.take_left' length4, List.append_assoc, List.cons_append]

theorem length_chars (id : Uuid) : id.chars.length = 36 := by
  simp [chars, id.length_digits]

theorem isUpper_of_mem_chars {id : Uuid} {value : Char} (member : value ∈ id.chars) :
    value.isUpper = false := by
  have either : value = '-' ∨ value ∈ id.digits.map digitChar := by
    simp only [chars, List.mem_append, List.mem_cons] at member
    rcases member with (((first | rfl | second) | rfl | third) | rfl | fourth) | rfl | fifth
    · exact .inr (List.mem_of_mem_take first)
    · exact .inl rfl
    · exact .inr (List.mem_of_mem_drop (List.mem_of_mem_take second))
    · exact .inl rfl
    · exact .inr (List.mem_of_mem_drop (List.mem_of_mem_take third))
    · exact .inl rfl
    · exact .inr (List.mem_of_mem_drop (List.mem_of_mem_take fourth))
    · exact .inl rfl
    · exact .inr (List.mem_of_mem_drop fifth)
  rcases either with rfl | printed
  · decide
  · rcases List.mem_map.mp printed with ⟨digit, _, rfl⟩
    exact isUpper_digitChar digit

theorem ofChars?_of_length {chars : List Char} (length : chars.length = 36) :
    ofChars? chars = ofGrouped? chars := by
  simp [ofChars?, length]

theorem getElem?_of_drop {chars rest : List Char} {place : Nat} {value : Char}
    (cut : chars.drop place = value :: rest) : chars[place]? = some value := by
  rw [← List.head?_drop, cut, List.head?_cons]

theorem drop_of_eq_cons {chars rest : List Char} {place : Nat} {value : Char}
    (cut : chars.drop place = value :: rest) : chars.drop (place + 1) = rest :=
  @drop_of_eq_append chars [value] rest place 1 cut rfl

theorem ofGrouped?_grouped {first second third fourth fifth : List Char}
    (length1 : first.length = 8) (length2 : second.length = 4) (length3 : third.length = 4)
    (length4 : fourth.length = 4) (length5 : fifth.length = 12) :
    ofGrouped? (grouped first second third fourth fifth) =
      ofPlain? (first ++ second ++ third ++ fourth ++ fifth) := by
  have drop8 : (grouped first second third fourth fifth).drop 8 =
      ('-' :: second) ++ '-' :: (third ++ '-' :: (fourth ++ '-' :: fifth)) :=
    List.drop_left' length1
  have drop13 : (grouped first second third fourth fifth).drop 13 =
      ('-' :: third) ++ '-' :: (fourth ++ '-' :: fifth) :=
    drop_of_eq_append drop8 (by rw [List.length_cons, length2])
  have drop18 : (grouped first second third fourth fifth).drop 18 =
      ('-' :: fourth) ++ '-' :: fifth :=
    drop_of_eq_append drop13 (by rw [List.length_cons, length3])
  have drop23 : (grouped first second third fourth fifth).drop 23 = '-' :: fifth :=
    drop_of_eq_append drop18 (by rw [List.length_cons, length4])
  have drop9 : (grouped first second third fourth fifth).drop 9 =
      second ++ '-' :: (third ++ '-' :: (fourth ++ '-' :: fifth)) := drop_of_eq_cons drop8
  have drop14 : (grouped first second third fourth fifth).drop 14 =
      third ++ '-' :: (fourth ++ '-' :: fifth) := drop_of_eq_cons drop13
  have drop19 : (grouped first second third fourth fifth).drop 19 = fourth ++ '-' :: fifth :=
    drop_of_eq_cons drop18
  have take8 : (grouped first second third fourth fifth).take 8 = first := List.take_left' length1
  have length : (grouped first second third fourth fifth).length = 36 := by
    simp [grouped, length1, length2, length3, length4, length5]
  have shape : ofGrouped? (grouped first second third fourth fifth) = _ :=
    if_pos ⟨length, getElem?_of_drop drop8, getElem?_of_drop drop13, getElem?_of_drop drop18,
      getElem?_of_drop drop23⟩
  rw [shape, take8, drop9, drop14, drop19, drop_of_eq_cons drop23, List.take_left' length2,
    List.take_left' length3, List.take_left' length4]

theorem mapM_digit?_map_digitChar (digits : List (Fin 16)) :
    (digits.map digitChar).mapM digit? = some digits := by
  induction digits with
  | nil => rfl
  | cons digit rest induction =>
      simp only [List.map_cons, List.mapM_cons, digit?_digitChar, induction, Option.bind_eq_bind,
        Option.bind_some, Option.pure_def]

theorem eq_groups (printed : List Char) :
    printed = printed.take 8 ++ (printed.drop 8).take 4 ++ (printed.drop 12).take 4 ++
      (printed.drop 16).take 4 ++ printed.drop 20 := by
  have join (place : Nat) :
      (printed.drop place).take 4 ++ printed.drop (place + 4) = printed.drop place := by
    rw [← List.drop_drop, List.take_append_drop]
  rw [List.append_assoc, List.append_assoc, List.append_assoc, join 16, join 12, join 8,
    List.take_append_drop]

theorem parse?_toString (id : Uuid) : parse? id.toString = some id := by
  have size : (id.digits.map digitChar).length = 32 := by rw [List.length_map, id.length_digits]
  have chars := chars_eq_grouped (eq_groups (id.digits.map digitChar)) (by simp [size])
    (by simp [size]) (by simp [size]) (by simp [size])
  rw [parse?, toString, String.toList_ofList, ofChars?_of_length (length_chars id), chars,
    ofGrouped?_grouped (by simp [size]) (by simp [size]) (by simp [size]) (by simp [size])
      (by simp [size]), ← eq_groups]
  simp only [ofPlain?, mapM_digit?_map_digitChar, id.length_digits, dite_true]

/-- Whether a text that is read as an id is printed like one. -/
def IsPrinted (text : String) : Prop :=
  text.length = 36 ∧ ∀ value ∈ text.toList, value.isUpper = false

instance (text : String) : Decidable (IsPrinted text) :=
  @instDecidableAnd _ _ _ (List.decidableBAll (fun value => value.isUpper = false) text.toList)

theorem eq_toString_iff {text : String} {id : Uuid} (read : parse? text = some id) :
    text = id.toString ↔ IsPrinted text := by
  constructor
  · rintro rfl
    rw [IsPrinted, toString, String.toList_ofList, ← String.length_toList, String.toList_ofList]
    exact ⟨length_chars id, fun value => isUpper_of_mem_chars⟩
  · rintro ⟨length, notUpper⟩
    have size : text.toList.length = 36 := by rw [String.length_toList, length]
    rw [parse?, ofChars?_of_length size] at read
    rcases ofGrouped?_eq_some read with
      ⟨first, second, third, fourth, fifth, length1, length2, length3, length4, isGrouped, plain⟩
    have digits : id.digits.map digitChar = first ++ second ++ third ++ fourth ++ fifth := by
      apply map_digitChar_of_mapM (ofPlain?_eq_some plain)
      intro value member
      apply notUpper
      simp only [List.mem_append] at member
      simp only [isGrouped, grouped, List.mem_append, List.mem_cons]
      rcases member with (((first | second) | third) | fourth) | fifth <;> simp [*]
    apply String.toList_injective
    rw [isGrouped, toString, String.toList_ofList]
    exact (chars_eq_grouped digits length1 length2 length3 length4).symm

end Uuid

/-! ## Identities -/

namespace Identity

theorem ofClaims_eq_ok_iff {claims : Claims} {caller : Identity} :
    ofClaims claims = .ok caller ↔
      claims.subject ≠ "" ∧ Uuid.parse? claims.subject = some caller.userId ∧
        caller.claims = claims := by
  unfold ofClaims
  constructor
  · intro isCaller
    split at isCaller
    · cases isCaller
    rename_i notEmpty
    split at isCaller
    · rename_i userId isId
      cases isCaller
      exact ⟨by simpa using notEmpty, isId, rfl⟩
    · cases isCaller
  · rintro ⟨nonempty, isId, rfl⟩
    have notEmpty : caller.claims.subject.isEmpty = false := by simpa using nonempty
    simp only [notEmpty, Bool.false_eq_true, if_false, isId]

theorem ofClaims_of_userId {claims : Claims} {userId : Uuid}
    (isUser : (ofClaims claims).map Identity.userId = .ok userId) :
    ofClaims claims = .ok { userId, claims } := by
  cases isCaller : ofClaims claims with
  | error fault =>
      rw [isCaller] at isUser
      cases isUser
  | ok caller =>
      rw [isCaller] at isUser
      cases isUser
      rw [← (ofClaims_eq_ok_iff.mp isCaller).2.2]

end Identity

end TokenAuthority

import Mathlib.Data.List.Basic
import TokenAuthority.Net.Address
import TokenAuthority.Proofs.Text.Decimal
import TokenAuthority.Proofs.Text.Segments

/-!
# Texts of addresses

An address is read from its literals and from no other text. Four bytes have one literal, as they
are printed. Groups may have zeros in front and capital letters, the last two may stand there as
bytes, and two colons may stand for zero groups that make them eight.
-/

namespace TokenAuthority.Net.Address

open Text (IsNumeral)

variable {text : List Char} {byte group : Nat} {bytes groups : List Nat}

/-! ## Bytes -/

theorem byte?_toDigits (small : byte < 256) : byte? (Nat.toDigits 10 byte) = some byte := by
  have all : ∀ byte < 256, byte? (Nat.toDigits 10 byte) = some byte := by decide +kernel
  exact all byte small

theorem byte?_eq_some_iff : byte? text = some byte ↔ byte < 256 ∧ text = Nat.toDigits 10 byte := by
  constructor
  · intro read
    rw [byte?, Option.ite_none_right_eq_some, Option.filter_eq_some_iff, Text.digits?_eq_some_iff,
      decide_eq_true_eq] at read
    rcases read with ⟨⟨_, plain⟩, ⟨zeros, rfl⟩, small⟩
    refine ⟨small, ?_⟩
    cases zeros with
    | zero => rfl
    | succ zeros =>
        have longer := @Nat.length_toDigits_pos 10 byte
        rw [List.replicate_succ, List.cons_append, List.head?_cons, List.length_cons,
          List.length_append] at plain
        simp only [ne_eq, not_true_eq_false, or_false] at plain
        omega
  · rintro ⟨small, rfl⟩
    exact byte?_toDigits small

theorem mapM_byte?_eq_some_iff {parts : List (List Char)} :
    parts.mapM byte? = some bytes ↔
      (∀ byte ∈ bytes, byte < 256) ∧ parts = bytes.map (Nat.toDigits 10) := by
  have each (part : List Char) (byte : Nat) :
      byte? part = some byte ↔ byte < 256 ∧ id part = Nat.toDigits 10 byte := byte?_eq_some_iff
  rw [Text.mapM_eq_some_iff each, List.map_id]

theorem not_mem_toDigits {value : Char} (noDigit : Text.isDigit value = false) {number : Nat} :
    value ∉ Nat.toDigits 10 number := by
  intro member
  rw [Text.isDigit_of_mem_toDigits member] at noDigit
  cases noDigit

theorem toList_printBytes (bytes : List Nat) :
    (printBytes bytes).toList = ['.'].intercalate (bytes.map (Nat.toDigits 10)) := by
  rw [printBytes, String.toList_intercalate, List.map_map]
  congr 1
  exact List.map_congr_left fun byte _ => Nat.toList_repr

theorem segments_printBytes (nonempty : bytes ≠ []) :
    Text.segments '.' (printBytes bytes).toList = bytes.map (Nat.toDigits 10) := by
  rw [toList_printBytes]
  refine Text.segments_intercalate (by simpa using nonempty) ?_
  rw [List.forall_mem_map]
  exact fun byte _ => not_mem_toDigits rfl

theorem bytes?_eq_some_iff :
    bytes? text = some bytes ↔
      bytes.length = 4 ∧ (∀ byte ∈ bytes, byte < 256) ∧ text = (printBytes bytes).toList := by
  simp only [bytes?, Option.bind_eq_bind, Option.bind_eq_some_iff, mapM_byte?_eq_some_iff,
    Option.ite_none_right_eq_some, Option.some.injEq]
  constructor
  · rintro ⟨_, ⟨small, parts⟩, four, rfl⟩
    refine ⟨four, small, ?_⟩
    rw [toList_printBytes, ← parts, Text.intercalate_segments]
  · rintro ⟨four, small, rfl⟩
    refine ⟨bytes, ⟨small, segments_printBytes ?_⟩, four, rfl⟩
    rintro rfl
    cases four

theorem colon_not_mem_printBytes (nonempty : bytes ≠ []) : ':' ∉ (printBytes bytes).toList := by
  intro member
  rcases Text.exists_segment_of_mem member (by decide : ':' ≠ '.') with ⟨part, isPart, inPart⟩
  rw [segments_printBytes nonempty] at isPart
  rcases List.mem_map.mp isPart with ⟨byte, _, rfl⟩
  exact not_mem_toDigits rfl inPart

/-! ## Groups -/

/-- The texts of a group: no more than four digits base sixteen. -/
def IsGroup (text : List Char) (group : Nat) : Prop :=
  text.length ≤ 4 ∧ IsNumeral 16 (text.map Char.toLower) group

theorem group?_eq_some_iff : group? text = some group ↔ IsGroup text group := by
  rw [group?, IsGroup]
  by_cases nothing : text = []
  · subst nothing
    simp [IsNumeral]
  · rw [Option.ite_none_left_eq_some, Text.hexNumber?_eq_some_iff nothing, List.isEmpty_iff]
    simp [nothing]

theorem IsGroup.not_mem (isGroup : IsGroup text group) : ':' ∉ text ∧ '.' ∉ text := by
  rcases (Text.isNumeral_iff (by decide)).mp isGroup.2 with ⟨values, _, small, isText, _⟩
  have digit (value : Char) (member : value ∈ text) :
      ∃ number < 16, Nat.digitChar number = value.toLower := by
    have among : value.toLower ∈ values.map Nat.digitChar := by
      rw [isText]
      exact List.mem_map_of_mem member
    rcases List.mem_map.mp among with ⟨number, isValue, same⟩
    exact ⟨number, small number isValue, same⟩
  constructor
  · intro member
    exact absurd (digit ':' member) (by decide)
  · intro member
    exact absurd (digit '.' member) (by decide)

/-- Groups with colons between them, of which the last two may stand there as bytes. -/
inductive Groups : List Char → List Nat → Prop
  | group {text : List Char} {group : Nat} (isGroup : IsGroup text group) : Groups text [group]
  | bytes {first second third fourth : Nat}
      (small : ∀ byte ∈ [first, second, third, fourth], byte < 256) :
      Groups (printBytes [first, second, third, fourth]).toList
        [first * 256 + second, third * 256 + fourth]
  | more {text rest : List Char} {group : Nat} {groups : List Nat} (isGroup : IsGroup text group)
      (further : Groups rest groups) : Groups (text ++ ':' :: rest) (group :: groups)

theorem group?_printBytes {first second third fourth : Nat} :
    group? (printBytes [first, second, third, fourth]).toList = none := by
  rw [Option.eq_none_iff_forall_ne_some]
  intro group isRead
  have noDot := (group?_eq_some_iff.mp isRead).not_mem.2
  rw [toList_printBytes] at noDot
  simp at noDot

theorem groups_of_groups? {parts : List (List Char)} (nonempty : parts ≠ [])
    (read : groups? parts = some groups) : Groups ([':'].intercalate parts) groups := by
  induction parts generalizing groups with
  | nil => exact absurd rfl nonempty
  | cons first rest induction =>
      cases rest with
      | nil =>
          rw [List.intercalate_singleton]
          rw [groups?] at read
          split at read
          · rename_i group isGroup
            cases read
            exact .group (group?_eq_some_iff.mp isGroup)
          · rcases Option.map_eq_some_iff.mp read with ⟨bytes, isBytes, rfl⟩
            rcases bytes?_eq_some_iff.mp isBytes with ⟨four, small, rfl⟩
            rcases List.length_eq_four.mp four with ⟨a, b, c, d, rfl⟩
            exact .bytes small
      | cons second others =>
          rw [List.intercalate_cons_cons, List.append_assoc, List.singleton_append]
          simp only [groups?, Option.bind_eq_bind, Option.bind_eq_some_iff, Option.some.injEq]
            at read
          rcases read with ⟨group, isGroup, further, isFurther, rfl⟩
          exact .more (group?_eq_some_iff.mp isGroup) (induction (List.cons_ne_nil _ _) isFurther)

theorem groups?_of_groups (isGroups : Groups text groups) :
    groups? (Text.segments ':' text) = some groups := by
  induction isGroups with
  | group isGroup =>
      rw [Text.segments_of_not_mem isGroup.not_mem.1, groups?, group?_eq_some_iff.mpr isGroup]
  | @bytes first second third fourth small =>
      have isBytes := bytes?_eq_some_iff.mpr ⟨rfl, small, rfl⟩
      rw [Text.segments_of_not_mem (colon_not_mem_printBytes (List.cons_ne_nil _ _)), groups?,
        group?_printBytes, isBytes]
      rfl
  | @more text rest group groups isGroup further induction =>
      rw [Text.segments_append, Text.segments_of_not_mem isGroup.not_mem.1, List.singleton_append]
      cases parts : Text.segments ':' rest with
      | nil => exact absurd parts (Text.segments_ne_nil ':' rest)
      | cons second others =>
          rw [parts] at induction
          simp [groups?, group?_eq_some_iff.mpr isGroup, induction]

theorem groups?_segments_eq_some_iff :
    groups? (Text.segments ':' text) = some groups ↔ Groups text groups := by
  refine ⟨fun read => ?_, groups?_of_groups⟩
  have isGroups := groups_of_groups? (Text.segments_ne_nil ':' text) read
  rwa [Text.intercalate_segments] at isGroups

/-! ## Gaps -/

def IsPart (text : List Char) (groups : List Nat) : Prop :=
  text = [] ∧ groups = [] ∨ Groups text groups

theorem exists_first (nonempty : text ≠ []) (noColon : ':' ∉ text) (behind : List Char) :
    ∃ first rest, text ++ behind = first :: rest ∧ first ≠ ':' := by
  cases text with
  | nil => exact absurd rfl nonempty
  | cons first rest =>
      refine ⟨first, rest ++ behind, rfl, ?_⟩
      rintro rfl
      exact noColon List.mem_cons_self

theorem IsGroup.ne_nil (isGroup : IsGroup text group) : text ≠ [] := by
  rintro rfl
  rcases isGroup.2 with ⟨zeros, isText⟩
  exact Nat.toDigits_ne_nil (List.append_eq_nil_iff.mp isText.symm).2

theorem Groups.exists_first (isGroups : Groups text groups) (behind : List Char) :
    ∃ first rest, text ++ behind = first :: rest ∧ first ≠ ':' := by
  cases isGroups with
  | group isGroup => exact Address.exists_first isGroup.ne_nil isGroup.not_mem.1 behind
  | bytes small =>
      refine Address.exists_first ?_ (colon_not_mem_printBytes (List.cons_ne_nil _ _)) behind
      rw [toList_printBytes]
      simp
  | more isGroup further =>
      rw [List.append_assoc]
      exact Address.exists_first isGroup.ne_nil isGroup.not_mem.1 _

theorem Groups.ne_nil (isGroups : Groups text groups) : text ≠ [] := by
  rintro rfl
  rcases isGroups.exists_first [] with ⟨first, rest, isText, _⟩
  cases isText

theorem partGroups?_eq_some_iff : partGroups? text = some groups ↔ IsPart text groups := by
  rw [partGroups?, IsPart]
  by_cases nothing : text = []
  · rw [if_pos (List.isEmpty_iff.mpr nothing), Option.some.injEq]
    constructor
    · exact fun same => .inl ⟨nothing, same.symm⟩
    · rintro (⟨_, same⟩ | isGroups)
      · exact same.symm
      · exact absurd nothing isGroups.ne_nil
  · rw [if_neg (mt List.isEmpty_iff.mp nothing), groups?_segments_eq_some_iff]
    exact (or_iff_right fun isEmpty => nothing isEmpty.1).symm

theorem cutGap?_cons {value : Char} {rest : List Char}
    (noGap : value = ':' → ∀ others, rest ≠ ':' :: others) :
    cutGap? (value :: rest) = (cutGap? rest).map fun parts => (value :: parts.1, parts.2) := by
  rw [cutGap?]
  exact fun others isColon same => noGap isColon others same

theorem cutGap?_append (noColon : ':' ∉ text) (behind : List Char) :
    cutGap? (text ++ behind) = (cutGap? behind).map fun parts => (text ++ parts.1, parts.2) := by
  induction text with
  | nil => simp
  | cons value rest induction =>
      rw [List.mem_cons, not_or] at noColon
      rw [List.cons_append, cutGap?_cons fun isColon => absurd isColon.symm noColon.1,
        induction noColon.2, Option.map_map]
      rfl

theorem Groups.cutGap?_append (isGroups : Groups text groups) (behind : List Char) :
    cutGap? (text ++ behind) = (cutGap? behind).map fun parts => (text ++ parts.1, parts.2) := by
  induction isGroups with
  | group isGroup => exact Address.cutGap?_append isGroup.not_mem.1 behind
  | bytes small =>
      exact Address.cutGap?_append (colon_not_mem_printBytes (List.cons_ne_nil _ _)) behind
  | @more text rest group groups isGroup further induction =>
      rcases further.exists_first behind with ⟨first, others, isRest, noColon⟩
      have noGap : ':' = ':' → ∀ others, rest ++ behind ≠ ':' :: others := by
        intro _ others same
        rw [isRest] at same
        exact noColon (List.cons.inj same).1
      rw [List.append_assoc, Address.cutGap?_append isGroup.not_mem.1, List.cons_append,
        cutGap?_cons noGap, induction, Option.map_map, Option.map_map]
      congr 1
      funext parts
      simp

theorem eq_of_cutGap? {before after : List Char} (cut : cutGap? text = some (before, after)) :
    text = before ++ ':' :: ':' :: after := by
  fun_induction cutGap? text generalizing before with
  | case1 rest =>
      cases cut
      rfl
  | case2 value rest _ induction =>
      rcases Option.map_eq_some_iff.mp cut with ⟨⟨first, last⟩, isCut, same⟩
      cases same
      rw [induction isCut, List.cons_append]
  | case3 => cases cut

theorem IsPart.cutGap? {first : List Nat} {before : List Char} (isFirst : IsPart before first)
    (after : List Char) :
    Address.cutGap? (before ++ ':' :: ':' :: after) = some (before, after) := by
  rcases isFirst with ⟨rfl, _⟩ | isGroups
  · rfl
  · rw [isGroups.cutGap?_append]
    simp [Address.cutGap?]

/-! ## Literals -/

/-- Eight groups, or fewer with two colons for zero groups. Bytes stand only at the end. -/
inductive LongLiteral : List Char → List Nat → Prop
  | whole {text : List Char} {groups : List Nat} (isGroups : Groups text groups)
      (eight : groups.length = 8) : LongLiteral text groups
  | gapped {before after : List Char} {first last : List Nat} {zeros : Nat}
      (isFirst : IsPart before first) (noBytes : '.' ∉ before) (isLast : IsPart after last)
      (positive : 0 < zeros) (eight : first.length + zeros + last.length = 8) :
      LongLiteral (before ++ ':' :: ':' :: after) (first ++ List.replicate zeros 0 ++ last)

inductive Literal : List Char → Address → Prop
  | short {bytes : List Nat} (four : bytes.length = 4) (small : ∀ byte ∈ bytes, byte < 256) :
      Literal (printBytes bytes).toList (.short bytes)
  | long {text : List Char} {groups : List Nat} (isLong : LongLiteral text groups) :
      Literal text (.long groups)

theorem long?_eq_some_iff : long? text = some groups ↔ LongLiteral text groups := by
  constructor
  · intro read
    unfold long? at read
    split at read
    · rw [Option.filter_eq_some_iff, partGroups?_eq_some_iff, decide_eq_true_eq] at read
      rcases read with ⟨⟨_, rfl⟩ | isGroups, eight⟩
      · cases eight
      · exact .whole isGroups eight
    · rename_i before after cut
      split at read
      · cases read
      · rename_i noBytes
        simp only [Option.bind_eq_bind, Option.bind_eq_some_iff, partGroups?_eq_some_iff,
          Option.ite_none_right_eq_some, Option.some.injEq] at read
        rcases read with ⟨first, isFirst, last, isLast, less, rfl⟩
        rw [eq_of_cutGap? cut]
        exact .gapped isFirst (by simpa using noBytes) isLast (by omega) (by omega)
  · intro isLong
    cases isLong with
    | whole isGroups eight =>
        have noGap : cutGap? text = none := by
          have cut := isGroups.cutGap?_append []
          rwa [List.append_nil] at cut
        rw [long?, noGap]
        simp [partGroups?_eq_some_iff.mpr (.inr isGroups), eight]
    | @gapped before after first last zeros isFirst noBytes isLast positive eight =>
        have less : first.length + last.length < 8 := by omega
        have rest : 8 - first.length - last.length = zeros := by omega
        rw [long?, isFirst.cutGap?]
        simp [noBytes, partGroups?_eq_some_iff.mpr isFirst, partGroups?_eq_some_iff.mpr isLast,
          less, rest]

theorem LongLiteral.colon_mem (isLong : LongLiteral text groups) : ':' ∈ text := by
  cases isLong with
  | whole isGroups eight =>
      cases isGroups with
      | group isGroup => cases eight
      | bytes small => cases eight
      | more isGroup further => simp
  | gapped => simp

theorem parse?_eq_some_iff {address : Address} :
    parse? text = some address ↔ Literal text address := by
  constructor
  · intro read
    unfold parse? at read
    split at read
    · rename_i bytes isBytes
      cases read
      rcases bytes?_eq_some_iff.mp isBytes with ⟨four, small, rfl⟩
      exact .short four small
    · rcases Option.map_eq_some_iff.mp read with ⟨groups, isLong, rfl⟩
      exact .long (long?_eq_some_iff.mp isLong)
  · intro isLiteral
    cases isLiteral with
    | short four small => rw [parse?, bytes?_eq_some_iff.mpr ⟨four, small, rfl⟩]
    | long isLong =>
        have noBytes : bytes? text = none := by
          rw [Option.eq_none_iff_forall_ne_some]
          intro bytes isBytes
          rcases bytes?_eq_some_iff.mp isBytes with ⟨four, _, rfl⟩
          refine colon_not_mem_printBytes ?_ isLong.colon_mem
          rintro rfl
          cases four
        rw [parse?, noBytes, long?_eq_some_iff.mpr isLong, Option.map_some]

end TokenAuthority.Net.Address

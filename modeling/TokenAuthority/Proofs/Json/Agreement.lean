import Mathlib.Data.List.Forall2
import TokenAuthority.Json.Value

/-!
# Values that say the same

`Json.agrees` compares what is left of two values when no zero has a sign. `Json.Alike` says what
that comes to: values are of one kind, numbers of one kind are the same or both are zero, and
arrays and objects are alike part by part.
-/

namespace TokenAuthority.Json

/-- Values of one kind that say the same. No integer is like a binary number. -/
inductive Alike : (left right : Json) → Prop
  | null : Alike .null .null
  | bool (value : Bool) : Alike (.bool value) (.bool value)
  | integer (value : Int) : Alike (.number (.integer value)) (.number (.integer value))
  | float {left right : Binary64} (same : left = right ∨ left.isZero = true ∧ right.isZero = true) :
      Alike (.number (.float left)) (.number (.float right))
  | string (text : String) : Alike (.string text) (.string text)
  | array {lefts rights : List Json} (items : List.Forall₂ Alike lefts rights) :
      Alike (.array lefts) (.array rights)
  | object {lefts rights : List (String × Json)} (names : lefts.map (·.1) = rights.map (·.1))
      (values : List.Forall₂ Alike (lefts.map (·.2)) (rights.map (·.2))) :
      Alike (.object lefts) (.object rights)

theorem alike_bool_iff {left right : Bool} : (bool left).Alike (bool right) ↔ left = right := by
  constructor
  · intro alike
    cases alike
    rfl
  · rintro rfl
    exact .bool left

theorem alike_string_iff {left right : String} :
    (string left).Alike (string right) ↔ left = right := by
  constructor
  · intro alike
    cases alike
    rfl
  · rintro rfl
    exact .string left

theorem alike_array_iff {lefts rights : List Json} :
    (array lefts).Alike (array rights) ↔ List.Forall₂ Alike lefts rights := by
  constructor
  · intro alike
    cases alike with
    | array items => exact items
  · exact .array

theorem alike_object_iff {lefts rights : List (String × Json)} :
    (object lefts).Alike (object rights) ↔ lefts.map (·.1) = rights.map (·.1) ∧
      List.Forall₂ Alike (lefts.map (·.2)) (rights.map (·.2)) := by
  constructor
  · intro alike
    cases alike with
    | object names values => exact ⟨names, values⟩
  · rintro ⟨names, values⟩
    exact .object names values

/-- Induction in which a value may rely on all that stands directly in it. -/
@[elab_as_elim]
theorem partInduction {motive : Json → Prop} (null : motive .null)
    (bool : ∀ value, motive (.bool value)) (number : ∀ value, motive (.number value))
    (string : ∀ text, motive (.string text))
    (array : ∀ items, (∀ item ∈ items, motive item) → motive (.array items))
    (object : ∀ members, (∀ value ∈ members.map Prod.snd, motive value) →
      motive (.object members)) :
    ∀ value, motive value
  | .null => null
  | .bool value => bool value
  | .number value => number value
  | .string text => string text
  | .array items =>
      array items fun item _ => partInduction null bool number string array object item
  | .object members =>
      object members fun value _ => partInduction null bool number string array object value
  termination_by value => sizeOf value
  decreasing_by
    · rename_i member
      have smaller := List.sizeOf_lt_of_mem member
      simp only [Json.array.sizeOf_spec]
      omega
    · rename_i member
      rcases List.mem_map.mp member with ⟨⟨name, held⟩, isMember, rfl⟩
      have smaller := List.sizeOf_lt_of_mem isMember
      simp only [Prod.mk.sizeOf_spec] at smaller
      simp only [Json.object.sizeOf_spec]
      omega

theorem Binary64.unsignedZero_eq_iff {left right : Binary64} :
    left.unsignedZero = right.unsignedZero ↔
      left = right ∨ left.isZero = true ∧ right.isZero = true := by
  have zero : (Binary64.zero false).isZero = true := rfl
  constructor
  · intro same
    unfold unsignedZero at same
    split at same
    · rename_i leftZero
      split at same
      · rename_i rightZero
        exact .inr ⟨leftZero, rightZero⟩
      · rename_i notZero
        exact absurd (same ▸ zero) notZero
    · rename_i notZero
      split at same
      · exact absurd (same ▸ zero) notZero
      · exact .inl same
  · rintro (rfl | ⟨leftZero, rightZero⟩)
    · rfl
    · rw [unsignedZero, unsignedZero, if_pos leftZero, if_pos rightZero]

theorem map_eq_iff_forall₂ {Thing Image : Type} {image : Thing → Image}
    {related : Thing → Thing → Prop} {lefts rights : List Thing}
    (same : ∀ left ∈ lefts, ∀ right, image left = image right ↔ related left right) :
    lefts.map image = rights.map image ↔ List.Forall₂ related lefts rights := by
  induction lefts generalizing rights with
  | nil => cases rights <;> simp
  | cons left lefts induction =>
      rw [List.forall_mem_cons] at same
      cases rights with
      | nil => simp
      | cons right rights =>
          rw [List.map_cons, List.map_cons, List.cons.injEq, List.forall₂_cons, same.1,
            induction same.2]

private theorem members_eq_iff {related : Json → Json → Prop} {lefts rights : List (String × Json)}
    (same : ∀ left ∈ lefts.map Prod.snd, ∀ right,
      left.unsignedZeros = right.unsignedZeros ↔ related left right) :
    (lefts.map fun member => (member.1, member.2.unsignedZeros)) =
        (rights.map fun member => (member.1, member.2.unsignedZeros)) ↔
      lefts.map Prod.fst = rights.map Prod.fst ∧
        List.Forall₂ related (lefts.map Prod.snd) (rights.map Prod.snd) := by
  induction lefts generalizing rights with
  | nil => cases rights <;> simp
  | cons left lefts induction =>
      rw [List.map_cons, List.forall_mem_cons] at same
      cases rights with
      | nil => simp
      | cons right rights =>
          simp only [List.map_cons, List.cons.injEq, Prod.mk.injEq, List.forall₂_cons, same.1,
            induction same.2]
          exact and_and_and_comm

private theorem unsignedZeros_number_eq_iff {left right : Number} :
    (number left).unsignedZeros = (number right).unsignedZeros ↔
      (number left).Alike (number right) := by
  constructor
  · intro same
    cases left <;> cases right <;>
      simp only [unsignedZeros, number.injEq, Number.integer.injEq, Number.float.injEq,
        reduceCtorEq] at same
    · subst same
      exact .integer _
    · exact .float (Binary64.unsignedZero_eq_iff.mp same)
  · intro alike
    cases alike with
    | integer value => rfl
    | float same => simp only [unsignedZeros, Binary64.unsignedZero_eq_iff.mpr same]

/-! ## Kinds -/

inductive Kind where
  | null
  | bool
  | number
  | string
  | array
  | object

def kind : Json → Kind
  | .null => .null
  | .bool _ => .bool
  | .number _ => .number
  | .string _ => .string
  | .array _ => .array
  | .object _ => .object

theorem kind_unsignedZeros (value : Json) : value.unsignedZeros.kind = value.kind := by
  rcases value with _ | _ | (_ | _) | _ | _ | _ <;> simp only [unsignedZeros, kind]

theorem Alike.kind_eq {left right : Json} (alike : left.Alike right) : left.kind = right.kind := by
  cases alike <;> rfl

private theorem unsignedZeros_eq_iff_of_kind_ne {left right : Json}
    (differ : left.kind ≠ right.kind) :
    left.unsignedZeros = right.unsignedZeros ↔ left.Alike right := by
  apply iff_of_false
  · intro same
    rw [← kind_unsignedZeros left, same, kind_unsignedZeros] at differ
    exact differ rfl
  · intro alike
    exact differ alike.kind_eq

/-! ## The comparison -/

theorem agrees_iff_alike {left right : Json} : left.agrees right = true ↔ left.Alike right := by
  rw [agrees, decide_eq_true_eq]
  induction left using partInduction generalizing right with
  | array items induction =>
      cases right with
      | array others =>
          rw [unsignedZeros_array, unsignedZeros_array, array.injEq,
            map_eq_iff_forall₂ fun item isItem _ => induction item isItem, alike_array_iff]
      | _ => exact unsignedZeros_eq_iff_of_kind_ne (by simp [kind])
  | object members induction =>
      cases right with
      | object others =>
          rw [unsignedZeros_object, unsignedZeros_object, object.injEq,
            members_eq_iff fun value isValue _ => induction value isValue, alike_object_iff]
      | _ => exact unsignedZeros_eq_iff_of_kind_ne (by simp [kind])
  | number value =>
      cases right with
      | number other => exact unsignedZeros_number_eq_iff
      | _ => exact unsignedZeros_eq_iff_of_kind_ne (by simp [kind])
  | null =>
      cases right with
      | null => exact iff_of_true rfl .null
      | _ => exact unsignedZeros_eq_iff_of_kind_ne (by simp [kind])
  | bool value =>
      cases right with
      | bool other => simp only [alike_bool_iff, unsignedZeros, bool.injEq]
      | _ => exact unsignedZeros_eq_iff_of_kind_ne (by simp [kind])
  | string text =>
      cases right with
      | string other => simp only [alike_string_iff, unsignedZeros, string.injEq]
      | _ => exact unsignedZeros_eq_iff_of_kind_ne (by simp [kind])

theorem agrees_symm {left right : Json} (agree : left.agrees right = true) :
    right.agrees left = true := by
  rw [agrees, decide_eq_true_eq] at agree ⊢
  exact agree.symm

theorem agrees_trans {first second third : Json} (left : first.agrees second = true)
    (right : second.agrees third = true) : first.agrees third = true := by
  rw [agrees, decide_eq_true_eq] at left right ⊢
  exact left.trans right

end TokenAuthority.Json

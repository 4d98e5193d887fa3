import Mathlib.Data.List.Basic
import TokenAuthority.Proofs.Text.Digits
import TokenAuthority.Text.Decimal

/-!
# Numbers that are read as they were printed

Printing leaves out what reading allows: a plus sign, and zeros in front. With these left aside, a
text is read as a number exactly if it is what the number is printed as.
-/

namespace TokenAuthority.Text

variable {limit value number : Nat} {text : List Char}

theorem isDigit_of_mem_toDigits {digit : Char} (member : digit ∈ Nat.toDigits 10 value) :
    isDigit digit = true := by
  have plain : digit.isDigit = true := Nat.isDigit_of_mem_toDigits (by decide) (by decide) member
  rw [Char.isDigit, Bool.and_eq_true, decide_eq_true_eq, decide_eq_true_eq] at plain
  rw [isDigit, Bool.and_eq_true, decide_eq_true_eq, decide_eq_true_eq]
  exact plain

/-! ## Digits -/

theorem isDigit_digitChar (small : value < 10) : isDigit (Nat.digitChar value) = true := by
  have all : ∀ value < 10, isDigit (Nat.digitChar value) = true := by decide
  exact all value small

theorem exists_value_of_isDigit {digit : Char} (isDigit : isDigit digit = true) :
    digit.toNat - 48 < 10 ∧ Nat.digitChar (digit.toNat - 48) = digit := by
  rw [Text.isDigit, Bool.and_eq_true, decide_eq_true_eq, decide_eq_true_eq] at isDigit
  have small : digit.toNat - 48 < 10 := by omega
  refine ⟨small, Char.toNat_inj.mp ?_⟩
  rw [Nat.toNat_digitChar_of_lt_ten small]
  omega

theorem digitsValue_digits {read : Nat} {values : List Nat} (small : ∀ value ∈ values, value < 10) :
    digitsValue read (values.map Nat.digitChar) = valueBehind 10 read values := by
  induction values generalizing read with
  | nil => rfl
  | cons value rest induction =>
      rw [List.forall_mem_cons] at small
      rw [List.map_cons, digitsValue, List.foldl_cons, valueBehind, List.foldl_cons,
        Nat.toNat_digitChar_sub_48_of_lt_ten small.1]
      exact induction small.2

theorem exists_digits (digits : ∀ digit ∈ text, isDigit digit = true) :
    ∃ values : List Nat, (∀ value ∈ values, value < 10) ∧ values.map Nat.digitChar = text := by
  refine ⟨text.map fun digit => digit.toNat - 48, ?_, ?_⟩
  · rw [List.forall_mem_map]
    exact fun digit member => (exists_value_of_isDigit (digits digit member)).1
  · rw [List.map_map]
    refine (List.map_congr_left fun digit member => ?_).trans (List.map_id text)
    exact (exists_value_of_isDigit (digits digit member)).2

theorem digits?_eq_some_iff : digits? text = some number ↔ IsNumeral 10 text number := by
  rw [isNumeral_iff (by decide), digits?, Option.ite_none_right_eq_some, Option.some.injEq,
    List.all_eq_true]
  constructor
  · rintro ⟨⟨nonempty, digits⟩, rfl⟩
    rcases exists_digits digits with ⟨values, small, rfl⟩
    refine ⟨values, ?_, small, rfl, (digitsValue_digits small).symm⟩
    exact fun nothing => nonempty (List.map_eq_nil_iff.mpr nothing)
  · rintro ⟨values, nonempty, small, rfl, rfl⟩
    refine ⟨⟨?_, ?_⟩, digitsValue_digits small⟩
    · exact fun nothing => nonempty (List.map_eq_nil_iff.mp nothing)
    · rw [List.forall_mem_map]
      exact fun value member => isDigit_digitChar (small value member)

theorem IsNumeral.isDigit (isNumeral : IsNumeral 10 text number) :
    ∀ digit ∈ text, isDigit digit = true := by
  rcases isNumeral with ⟨zeros, rfl⟩
  rw [List.forall_mem_append]
  refine ⟨?_, fun digit => isDigit_of_mem_toDigits⟩
  intro digit member
  rw [List.eq_of_mem_replicate member]
  rfl

/-! ## Signs -/

/-- The texts of a number: its digits, behind a plus sign or not. -/
inductive Spells : List Char → Nat → Prop
  | plain {digits : List Char} {number : Nat} (isNumeral : IsNumeral 10 digits number) :
      Spells digits number
  | signed {digits : List Char} {number : Nat} (isNumeral : IsNumeral 10 digits number) :
      Spells ('+' :: digits) number

theorem decimal?_eq_some_iff :
    decimal? limit text = some number ↔ Spells text number ∧ number < limit := by
  unfold decimal?
  rw [Option.filter_eq_some_iff, decide_eq_true_eq]
  refine and_congr_left fun _ => ?_
  split
  · rename_i digits
    rw [digits?_eq_some_iff]
    refine ⟨.signed, fun spells => ?_⟩
    cases spells with
    | plain isNumeral => exact absurd (isNumeral.isDigit '+' List.mem_cons_self) (by decide)
    | signed isNumeral => exact isNumeral
  · rename_i noPlus
    rw [digits?_eq_some_iff]
    refine ⟨.plain, fun spells => ?_⟩
    cases spells with
    | plain isNumeral => exact isNumeral
    | signed isNumeral => exact absurd rfl (noPlus _)

theorem Spells.unique {other : Nat} (spells : Spells text number) (again : Spells text other) :
    number = other := by
  have first : decimal? (max number other + 1) text = some number :=
    decimal?_eq_some_iff.mpr ⟨spells, by omega⟩
  have second : decimal? (max number other + 1) text = some other :=
    decimal?_eq_some_iff.mpr ⟨again, by omega⟩
  exact Option.some.inj (first.symm.trans second)

theorem decimal?_repr (small : value < limit) :
    decimal? limit (Nat.repr value).toList = some value := by
  rw [decimal?_eq_some_iff, Nat.toList_repr]
  exact ⟨.plain ⟨0, rfl⟩, small⟩

end TokenAuthority.Text

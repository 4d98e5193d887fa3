import Mathlib.Data.List.Basic
import TokenAuthority.Text.Hex

/-!
# Numbers and their digits

A number is read from what it is printed with, and zeros in front of that change nothing. No other
digits are read as it.
-/

namespace TokenAuthority.Text

variable {base number read : Nat} {values : List Nat} {digits : List Char}

/-- Digits of a number: as it is printed, with zeros in front or not. -/
def IsNumeral (base : Nat) (digits : List Char) (number : Nat) : Prop :=
  ∃ zeros, digits = List.replicate zeros '0' ++ Nat.toDigits base number

/-! ## Values of digits -/

def valueBehind (base read : Nat) (values : List Nat) : Nat :=
  values.foldl (fun number value => number * base + value) read

theorem toDigits_append_digits (large : 1 < base) (positive : 0 < read)
    (small : ∀ value ∈ values, value < base) :
    Nat.toDigits base read ++ values.map Nat.digitChar =
      Nat.toDigits base (valueBehind base read values) := by
  induction values generalizing read with
  | nil => simp [valueBehind]
  | cons value rest induction =>
      rw [List.forall_mem_cons] at small
      have further : 0 < base * read + value :=
        Nat.add_pos_left (Nat.mul_pos (by omega) positive) value
      calc
        Nat.toDigits base read ++ (value :: rest).map Nat.digitChar
          = (Nat.toDigits base read ++ Nat.toDigits base value) ++ rest.map Nat.digitChar := by
            rw [Nat.toDigits_of_lt_base small.1, List.map_cons, List.append_assoc,
              List.singleton_append]
        _ = Nat.toDigits base (base * read + value) ++ rest.map Nat.digitChar := by
            rw [Nat.toDigits_append_toDigits large positive small.1]
        _ = Nat.toDigits base (valueBehind base read (value :: rest)) := by
            rw [induction further small.2, valueBehind, valueBehind, List.foldl_cons,
              Nat.mul_comm base read]

theorem isNumeral_digits (large : 1 < base) (nonempty : values ≠ [])
    (small : ∀ value ∈ values, value < base) :
    IsNumeral base (values.map Nat.digitChar) (valueBehind base 0 values) := by
  induction values with
  | nil => exact absurd rfl nonempty
  | cons value rest induction =>
      rw [List.forall_mem_cons] at small
      rcases Nat.eq_zero_or_pos value with rfl | positive
      · cases rest with
        | nil => exact ⟨0, by simp [valueBehind, Nat.toDigits_zero, Nat.digitChar]⟩
        | cons next others =>
            rcases induction (List.cons_ne_nil _ _) small.2 with ⟨zeros, isNumeral⟩
            refine ⟨zeros + 1, ?_⟩
            rw [List.map_cons, isNumeral, List.replicate_succ, List.cons_append]
            simp [valueBehind, Nat.digitChar]
      · refine ⟨0, ?_⟩
        have whole := toDigits_append_digits large positive small.2
        rw [Nat.toDigits_of_lt_base small.1, List.singleton_append] at whole
        rw [List.replicate_zero, List.nil_append, List.map_cons, whole]
        simp [valueBehind]

theorem exists_values_toDigits (large : 1 < base) (number : Nat) :
    ∃ values, values ≠ [] ∧ (∀ value ∈ values, value < base) ∧
      values.map Nat.digitChar = Nat.toDigits base number ∧ valueBehind base 0 values = number := by
  induction number using Nat.strongRecOn with
  | ind number induction =>
      by_cases small : number < base
      · refine ⟨[number], List.cons_ne_nil _ _, List.forall_mem_singleton.mpr small, ?_, ?_⟩
        · rw [Nat.toDigits_of_lt_base small, List.map_singleton]
        · simp [valueBehind]
      · have positive : 0 < number / base := Nat.div_pos (Nat.not_lt.mp small) (by omega)
        have last : number % base < base := Nat.mod_lt _ (by omega)
        have less : number / base < number := Nat.div_lt_self (by omega) large
        rcases induction _ less with ⟨values, _, inside, printed, made⟩
        refine ⟨values ++ [number % base], by simp, ?_, ?_, ?_⟩
        · exact List.forall_mem_append.mpr ⟨inside, List.forall_mem_singleton.mpr last⟩
        · rw [List.map_append, printed, List.map_singleton, ← Nat.toDigits_of_lt_base last,
            Nat.toDigits_append_toDigits large positive last, Nat.div_add_mod]
        · rw [valueBehind] at made
          rw [valueBehind, List.foldl_append, made, List.foldl_cons, List.foldl_nil,
            Nat.div_add_mod']

/-- The digits of a number are those whose values make it. -/
theorem isNumeral_iff (large : 1 < base) :
    IsNumeral base digits number ↔ ∃ values, values ≠ [] ∧ (∀ value ∈ values, value < base) ∧
      values.map Nat.digitChar = digits ∧ valueBehind base 0 values = number := by
  constructor
  · rintro ⟨zeros, rfl⟩
    rcases exists_values_toDigits large number with ⟨values, _, small, printed, made⟩
    refine ⟨List.replicate zeros 0 ++ values, by simp_all, ?_, ?_, ?_⟩
    · rw [List.forall_mem_append]
      refine ⟨fun value member => ?_, small⟩
      rw [List.eq_of_mem_replicate member]
      omega
    · rw [List.map_append, printed, List.map_replicate]
      rfl
    · rw [valueBehind, List.foldl_append]
      induction zeros with
      | zero => exact made
      | succ zeros induction =>
          rw [List.replicate_succ, List.foldl_cons, Nat.zero_mul, Nat.add_zero]
          exact induction
  · rintro ⟨values, nonempty, small, rfl, rfl⟩
    exact isNumeral_digits large nonempty small

/-! ## Readers -/

theorem mapM_eq_some_iff {Item Value Shown : Type} {read : Item → Option Value}
    {fits : Value → Prop} {shown : Item → Shown} {print : Value → Shown}
    (each : ∀ item value, read item = some value ↔ fits value ∧ shown item = print value)
    {items : List Item} {values : List Value} :
    items.mapM read = some values ↔
      (∀ value ∈ values, fits value) ∧ items.map shown = values.map print := by
  induction items generalizing values with
  | nil => cases values <;> simp
  | cons item rest induction =>
      cases values with
      | nil => simp [Option.bind_eq_some_iff]
      | cons value others =>
          simp only [List.mapM_cons, Option.bind_eq_bind, Option.bind_eq_some_iff, Option.pure_def,
            Option.some.injEq, List.cons.injEq, each, induction, List.forall_mem_cons,
            List.map_cons]
          constructor
          · rintro ⟨_, ⟨first, isFirst⟩, _, ⟨others, areOthers⟩, rfl, rfl⟩
            exact ⟨⟨first, others⟩, isFirst, areOthers⟩
          · rintro ⟨⟨first, others⟩, isFirst, areOthers⟩
            exact ⟨_, ⟨first, isFirst⟩, _, ⟨others, areOthers⟩, rfl, rfl⟩

/-! ## Base sixteen -/

theorem hexValue?_of_large {digit : Char} (large : 128 ≤ digit.toNat) : hexValue? digit = none := by
  rw [hexValue?, if_neg (by omega), if_neg (by omega), if_neg (by omega)]

theorem toLower_of_large {digit : Char} (large : 128 ≤ digit.toNat) : digit.toLower = digit := by
  refine dif_neg fun capital => ?_
  have bounded : digit.toNat ≤ 'Z'.toNat := capital.2
  have isLetter : 'Z'.toNat = 90 := rfl
  omega

theorem hexValue?_eq_some_iff {digit : Char} {value : Nat} :
    hexValue? digit = some value ↔ value < 16 ∧ digit.toLower = Nat.digitChar value := by
  have plain : ∀ code < 128, ∀ value < 16, hexValue? (Char.ofNat code) = some value ↔
      (Char.ofNat code).toLower = Nat.digitChar value := by
    decide +kernel
  have printed : ∀ value < 16, (Nat.digitChar value).toNat < 128 := by decide
  by_cases isPlain : digit.toNat < 128
  · have same := plain digit.toNat isPlain value
    rw [Char.ofNat_toNat] at same
    constructor
    · intro found
      exact ⟨hexValue?_lt found, (same (hexValue?_lt found)).mp found⟩
    · rintro ⟨small, lower⟩
      exact (same small).mpr lower
  · rw [Nat.not_lt] at isPlain
    rw [hexValue?_of_large isPlain, toLower_of_large isPlain]
    constructor
    · nofun
    · rintro ⟨small, rfl⟩
      exact absurd (printed value small) (Nat.not_lt.mpr isPlain)

theorem hexNumber?_eq_some_iff {text : List Char} (nonempty : text ≠ []) :
    hexNumber? text = some number ↔ IsNumeral 16 (text.map Char.toLower) number := by
  rw [isNumeral_iff (by decide), hexNumber?]
  simp only [Option.map_eq_some_iff, mapM_eq_some_iff fun _ _ => hexValue?_eq_some_iff]
  constructor
  · rintro ⟨values, ⟨small, lower⟩, rfl⟩
    refine ⟨values, ?_, small, lower.symm, rfl⟩
    rintro rfl
    exact nonempty (List.map_eq_nil_iff.mp lower)
  · rintro ⟨values, _, small, lower, rfl⟩
    exact ⟨values, ⟨small, lower.symm⟩, rfl⟩

end TokenAuthority.Text

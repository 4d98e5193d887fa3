import TokenAuthority.Proofs.Net.Address
import TokenAuthority.Proofs.Settings

/-!
# What variables say

Settings are what the variables stand for, each by itself: a variable that is unset or blank stands
for its default. They are refused only for a variable that is set and cannot be read, and it is the
first of these that is reported.
-/

namespace TokenAuthority.Settings

variable {source other : String → Option String} {which : Variable} {value : String}
  {Meaning : Type} {fallback meaning : Meaning} {reads : String → Meaning → Prop}

/-! ## Values -/

def IsSet (source : String → Option String) (which : Variable) (value : String) : Prop :=
  source which.name = some value ∧ ∃ letter ∈ value.toList, Text.isBlank letter = false

def IsUnset (source : String → Option String) (which : Variable) : Prop :=
  ∀ value, source which.name = some value → ∀ letter ∈ value.toList, Text.isBlank letter = true

theorem value?_eq_some_iff : value? source which = some value ↔ IsSet source which value := by
  rw [value?, Option.filter_eq_some_iff, IsSet, Text.isBlankText, Bool.not_eq_true',
    List.all_eq_false]
  simp only [Bool.not_eq_true]

theorem value?_eq_none_iff : value? source which = none ↔ IsUnset source which := by
  rw [value?, Option.filter_eq_none_iff]
  simp only [IsUnset, Text.isBlankText, Bool.not_eq_true', Bool.not_eq_false, List.all_eq_true]

/-- What a variable stands for: if it is set what its value is read as, and otherwise a default. -/
inductive StandsFor (source : String → Option String) (which : Variable) (fallback : Meaning)
    (reads : String → Meaning → Prop) : Meaning → Prop
  | unset (isUnset : IsUnset source which) : StandsFor source which fallback reads fallback
  | set {value : String} {meaning : Meaning} (isSet : IsSet source which value)
      (isRead : reads value meaning) : StandsFor source which fallback reads meaning

theorem standsFor_of_none (isNone : value? source which = none) :
    StandsFor source which fallback reads meaning ↔ meaning = fallback := by
  constructor
  · intro stands
    cases stands with
    | unset => rfl
    | set isSet isRead => cases isNone.symm.trans (value?_eq_some_iff.mpr isSet)
  · rintro rfl
    exact .unset (value?_eq_none_iff.mp isNone)

theorem standsFor_of_some (isSome : value? source which = some value) :
    StandsFor source which fallback reads meaning ↔ reads value meaning := by
  constructor
  · intro stands
    cases stands with
    | unset isUnset => cases isSome.symm.trans (value?_eq_none_iff.mpr isUnset)
    | set isSet isRead =>
        cases isSome.symm.trans (value?_eq_some_iff.mpr isSet)
        exact isRead
  · exact .set (value?_eq_some_iff.mp isSome)

theorem standsFor_eq_iff {text fallback : String} :
    StandsFor source which fallback Eq text ↔ (value? source which).getD fallback = text := by
  cases isValue : value? source which with
  | none => exact (standsFor_of_none isValue).trans eq_comm
  | some value => exact standsFor_of_some isValue

/-- A variable has one value in two sources, or none in either. -/
def Alike (source other : String → Option String) (which : Variable) : Prop :=
  ∀ value, IsSet source which value ↔ IsSet other which value

theorem Alike.value?_eq (alike : Alike source other which) :
    value? source which = value? other which := by
  apply Option.ext
  intro value
  rw [value?_eq_some_iff, value?_eq_some_iff]
  exact alike value

theorem StandsFor.eq_of_alike {again : Meaning}
    (stands : StandsFor source which fallback reads meaning)
    (standsAgain : StandsFor other which fallback reads again) (alike : Alike source other which)
    (single : ∀ value one two, reads value one → reads value two → one = two) :
    meaning = again := by
  have same := alike.value?_eq
  cases isValue : value? source which with
  | none =>
      rw [standsFor_of_none isValue] at stands
      rw [standsFor_of_none (same.symm.trans isValue)] at standsAgain
      rw [stands, standsAgain]
  | some value =>
      rw [standsFor_of_some isValue] at stands
      rw [standsFor_of_some (same.symm.trans isValue)] at standsAgain
      exact single value _ _ stands standsAgain

/-! ## Readings -/

/-- A number below a limit, possibly with blanks around it, a plus sign and zeros in front. -/
def IsNumber (limit : Nat) (value : String) (number : Nat) : Prop :=
  number < limit ∧ ∃ before text after, value.toList = before ++ text ++ after ∧
    (∀ letter ∈ before, Text.isBlank letter = true) ∧
    (∀ letter ∈ after, Text.isBlank letter = true) ∧ Text.Spells text number

def IsAddress (value : String) (address : Net.Address) : Prop :=
  Net.Address.Literal value.toList address

def IsJsonWord (value : String) : Prop :=
  ∃ first second third fourth, value.toList = [first, second, third, fourth] ∧
    first ∈ ['j', 'J'] ∧ second ∈ ['s', 'S'] ∧ third ∈ ['o', 'O'] ∧ fourth ∈ ['n', 'N']

theorem isBlank_of_spells {text : List Char} {number : Nat} (spells : Text.Spells text number) :
    ∀ letter ∈ text, Text.isBlank letter = false := by
  have digits {text : List Char} (isNumeral : Text.IsNumeral 10 text number) :
      ∀ letter ∈ text, Text.isBlank letter = false :=
    fun letter member => Text.isBlank_of_isDigit (isNumeral.isDigit letter member)
  cases spells with
  | plain isNumeral => exact digits isNumeral
  | signed isNumeral => exact List.forall_mem_cons.mpr ⟨rfl, digits isNumeral⟩

theorem decimal?_trimChars_eq_some_iff {limit number : Nat} :
    Text.decimal? limit (Text.trimChars value.toList) = some number ↔
      IsNumber limit value number := by
  rw [Text.decimal?_eq_some_iff, and_comm, IsNumber]
  refine and_congr_right fun _ => ?_
  constructor
  · intro spells
    rcases Text.exists_blanks_trimChars value.toList with ⟨before, after, whole, front, behind⟩
    exact ⟨before, _, after, whole, front, behind, spells⟩
  · rintro ⟨before, text, after, whole, front, behind, spells⟩
    rwa [whole, Text.trimChars_append front (isBlank_of_spells spells) behind]

theorem IsNumber.unique {limit : Nat} (value : String) (one two : Nat)
    (isOne : IsNumber limit value one) (isTwo : IsNumber limit value two) : one = two := by
  rw [← decimal?_trimChars_eq_some_iff] at isOne isTwo
  exact Option.some.inj (isOne.symm.trans isTwo)

theorem IsAddress.unique (value : String) (one two : Net.Address) (isOne : IsAddress value one)
    (isTwo : IsAddress value two) : one = two := by
  rw [IsAddress, ← Net.Address.parse?_eq_some_iff] at isOne isTwo
  exact Option.some.inj (isOne.symm.trans isTwo)

theorem lowerLetter_eq_iff {small capital letter : Char}
    (isSmall : 97 ≤ small.toNat ∧ small.toNat ≤ 122)
    (isCapital : capital.toNat + 32 = small.toNat) :
    lowerLetter letter = small ↔ letter ∈ [small, capital] := by
  rw [List.mem_pair, ← Char.toNat_inj, ← @Char.toNat_inj letter, ← @Char.toNat_inj letter]
  by_cases raised : 65 ≤ letter.toNat ∧ letter.toNat ≤ 90
  · have lowered : (lowerLetter letter).toNat = letter.toNat + 32 := by
      rw [lowerLetter, if_pos raised, Text.toNat_ofNat_of_valid (by omega)]
    omega
  · have kept : lowerLetter letter = letter := if_neg raised
    rw [kept]
    omega

theorem isJsonWord_iff :
    IsJsonWord value ↔ (value.toList.map lowerLetter == "json".toList) = true := by
  have letters : "json".toList = ['j', 's', 'o', 'n'] := by decide
  have first (letter : Char) : lowerLetter letter = 'j' ↔ letter ∈ ['j', 'J'] :=
    lowerLetter_eq_iff (by decide) rfl
  have second (letter : Char) : lowerLetter letter = 's' ↔ letter ∈ ['s', 'S'] :=
    lowerLetter_eq_iff (by decide) rfl
  have third (letter : Char) : lowerLetter letter = 'o' ↔ letter ∈ ['o', 'O'] :=
    lowerLetter_eq_iff (by decide) rfl
  have fourth (letter : Char) : lowerLetter letter = 'n' ↔ letter ∈ ['n', 'N'] :=
    lowerLetter_eq_iff (by decide) rfl
  rw [beq_iff_eq, letters, IsJsonWord]
  constructor
  · rintro ⟨j, s, o, n, whole, isJ, isS, isO, isN⟩
    rw [whole, List.map_cons, List.map_cons, List.map_cons, List.map_cons, List.map_nil,
      (first j).mpr isJ, (second s).mpr isS, (third o).mpr isO, (fourth n).mpr isN]
  · intro whole
    simp only [List.map_eq_cons_iff, List.map_eq_nil_iff] at whole
    rcases whole with ⟨j, _, isValue, isJ, s, _, rfl, isS, o, _, rfl, isO, n, _, rfl, isN, rfl⟩
    exact ⟨j, s, o, n, isValue, (first j).mp isJ, (second s).mp isS, (third o).mp isO,
      (fourth n).mp isN⟩

end TokenAuthority.Settings

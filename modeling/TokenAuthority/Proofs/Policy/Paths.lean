import TokenAuthority.Policy.Evaluation
import TokenAuthority.Proofs.Register
import TokenAuthority.Proofs.Text.Decimal
import TokenAuthority.Proofs.Text.Segments

/-!
# Where paths lead

A path leads from a value through what stands under its first segment to what the other segments
lead to from there. So a path that goes on behind another leads on from where that one has led, and
nowhere if that one leads nowhere.
-/

namespace TokenAuthority.Policy

/-! ## Segments -/

/-- What stands directly in a value under a segment: the first member of an object with that name,
or the item of an array at the index that the segment spells, if this is a word. -/
inductive StandsUnder : String → Json → Json → Prop
  | member {name : String} {inner : Json} {before after : List (String × Json)}
      (first : ∀ member ∈ before, member.1 ≠ name) :
      StandsUnder name (.object (before ++ (name, inner) :: after)) inner
  | element {segment : String} {index : Nat} {items : List Json} {inner : Json}
      (spelled : Text.Spells segment.toList index) (isWord : index < Word.size64)
      (isItem : items[index]? = some inner) : StandsUnder segment (.array items) inner

inductive LeadsTo : List String → Json → Json → Prop
  | here (value : Json) : LeadsTo [] value value
  | through {segment : String} {segments : List String} {outer inner found : Json}
      (stands : StandsUnder segment outer inner) (onwards : LeadsTo segments inner found) :
      LeadsTo (segment :: segments) outer found

variable {value outer inner found : Json} {segments : List (List Char)}

theorem step?_eq_some_iff {segment : List Char} :
    step? segment outer = some inner ↔ StandsUnder (String.ofList segment) outer inner := by
  constructor
  · intro isStep
    cases outer with
    | object members =>
        rcases Entries.get?_eq_some_iff_first.mp isStep with ⟨before, after, rfl, first⟩
        exact .member first
    | array items =>
        rcases Option.bind_eq_some_iff.mp isStep with ⟨index, isIndex, isItem⟩
        rcases Text.decimal?_eq_some_iff.mp isIndex with ⟨spelled, isWord⟩
        exact .element (by rwa [String.toList_ofList]) isWord isItem
    | _ => cases isStep
  · intro stands
    cases stands with
    | member first => exact Entries.get?_eq_some_iff_first.mpr ⟨_, _, rfl, first⟩
    | element spelled isWord isItem =>
        rw [String.toList_ofList] at spelled
        exact Option.bind_eq_some_iff.mpr
          ⟨_, Text.decimal?_eq_some_iff.mpr ⟨spelled, isWord⟩, isItem⟩

theorem walk?_eq_some_iff :
    walk? segments value = some found ↔ LeadsTo (segments.map String.ofList) value found := by
  induction segments generalizing value with
  | nil =>
      rw [walk?, Option.some.injEq, List.map_nil]
      constructor
      · rintro rfl
        exact .here value
      · rintro ⟨⟩
        rfl
  | cons segment rest induction =>
      simp only [walk?, Option.bind_eq_some_iff, step?_eq_some_iff, induction, List.map_cons]
      constructor
      · rintro ⟨inner, stands, onwards⟩
        exact .through stands onwards
      · rintro (_ | ⟨stands, onwards⟩)
        exact ⟨_, stands, onwards⟩

theorem walk?_append (first last : List (List Char)) (value : Json) :
    walk? (first ++ last) value = (walk? first value).bind (walk? last) := by
  induction first generalizing value with
  | nil => rfl
  | cons segment rest induction =>
      rw [List.cons_append, walk?, walk?, Option.bind_assoc]
      exact Option.bind_congr fun inner _ => induction inner

/-! ## Paths -/

theorem lookup?_of_ne_empty {path : String} (nonempty : path ≠ "") (value : Json) :
    lookup? value path = walk? (Text.segments '.' path.toList) value := by
  rw [lookup?, if_neg]
  simpa using nonempty

theorem lookup?_append {first last : String} (isFirst : first ≠ "") (isLast : last ≠ "")
    (value : Json) :
    lookup? value (first ++ "." ++ last) = (lookup? value first).bind (lookup? · last) := by
  have nonempty : first ++ "." ++ last ≠ "" := by simp
  have characters : (first ++ "." ++ last).toList = first.toList ++ '.' :: last.toList := by
    simp
  rw [lookup?_of_ne_empty nonempty, lookup?_of_ne_empty isFirst, characters, Text.segments_append,
    walk?_append]
  exact Option.bind_congr fun inner _ => (lookup?_of_ne_empty isLast inner).symm

theorem lookup?_intercalate {segments : List String}
    (dotless : ∀ segment ∈ segments, '.' ∉ segment.toList)
    (nonempty : ".".intercalate segments ≠ "") :
    lookup? value (".".intercalate segments) = some found ↔ LeadsTo segments value found := by
  have notNil : segments ≠ [] := by
    rintro rfl
    exact nonempty rfl
  have parts :
      Text.segments '.' (".".intercalate segments).toList = segments.map String.toList := by
    rw [String.toList_intercalate]
    exact Text.segments_intercalate (by simpa using notNil) (List.forall_mem_map.mpr dotless)
  have same : (segments.map String.toList).map String.ofList = segments := by
    simp
  rw [lookup?_of_ne_empty nonempty, parts, walk?_eq_some_iff, same]

theorem exists_segments (path : String) :
    ∃ segments : List String, (∀ segment ∈ segments, '.' ∉ segment.toList) ∧
      ".".intercalate segments = path := by
  refine ⟨(Text.segments '.' path.toList).map String.ofList, ?_, ?_⟩
  · rw [List.forall_mem_map]
    intro segment member
    rw [String.toList_ofList]
    exact Text.not_mem_of_mem_segments member
  · apply String.toList_inj.mp
    have same : ((Text.segments '.' path.toList).map String.ofList).map String.toList =
        Text.segments '.' path.toList := by
      simp
    rw [String.toList_intercalate, same]
    exact Text.intercalate_segments '.' path.toList

/-! ## Kinds of values -/

theorem standsUnder_object_iff {name : String} {members : List (String × Json)}
    (distinct : members.Pairwise fun one other => one.1 ≠ other.1) :
    StandsUnder name (.object members) inner ↔ (name, inner) ∈ members := by
  constructor
  · rintro ⟨⟩
    simp
  · intro member
    rcases List.append_of_mem member with ⟨before, after, rfl⟩
    refine .member fun other isOther => ?_
    exact (List.pairwise_append.mp distinct).2.2 other isOther _ List.mem_cons_self

theorem standsUnder_array_iff {segment : String} {items : List Json}
    (fits : items.length ≤ Word.size64) {index : Nat}
    (spelled : Text.Spells segment.toList index) :
    StandsUnder segment (.array items) inner ↔ items[index]? = some inner := by
  constructor
  · intro stands
    cases stands with
    | element again isWord isItem => rwa [spelled.unique again]
  · intro isItem
    have inside : index < items.length := (List.getElem?_eq_some_iff.mp isItem).1
    exact .element spelled (Nat.lt_of_lt_of_le inside fits) isItem

theorem not_standsUnder_array {segment : String} {items : List Json}
    (noIndex : ∀ index, ¬ Text.Spells segment.toList index) :
    ¬ StandsUnder segment (.array items) inner := by
  intro stands
  cases stands with
  | element spelled _ _ => exact noIndex _ spelled

theorem lookup?_of_scalar {path : String} (nonempty : path ≠ "")
    (noObject : ∀ members, value ≠ .object members) (noArray : ∀ items, value ≠ .array items) :
    lookup? value path = none := by
  rcases exists_segments path with ⟨segments, dotless, rfl⟩
  rw [Option.eq_none_iff_forall_ne_some]
  intro found isFound
  cases (lookup?_intercalate dotless nonempty).mp isFound with
  | here => exact nonempty rfl
  | through stands onwards =>
      cases stands with
      | member => exact noObject _ rfl
      | element => exact noArray _ rfl

/-- The empty path leads to the value itself, and a path that goes on behind another leads on from
where that one has led. Every path is made of segments with dots between them, and leads where its
segments lead one after the other: under a name to the member of that name, under an index to the
item there, and from anything else, past the end and under what spells no index, nowhere. -/
theorem paths_compose (value : Json) :
    lookup? value "" = some value ∧
    (∀ first last : String, first ≠ "" → last ≠ "" →
      lookup? value (first ++ "." ++ last) =
        (lookup? value first).bind fun found => lookup? found last) ∧
    (∀ path : String, ∃ segments : List String, (∀ segment ∈ segments, '.' ∉ segment.toList) ∧
      ".".intercalate segments = path) ∧
    (∀ segments : List String, (∀ segment ∈ segments, '.' ∉ segment.toList) →
      ".".intercalate segments ≠ "" → ∀ found,
        lookup? value (".".intercalate segments) = some found ↔ LeadsTo segments value found) ∧
    (∀ members, value = .object members →
      (members.Pairwise fun one other => one.1 ≠ other.1) → ∀ name inner,
        StandsUnder name value inner ↔ (name, inner) ∈ members) ∧
    (∀ items, value = .array items → items.length ≤ Word.size64 → ∀ segment : String,
      (∀ index, Text.Spells segment.toList index → ∀ inner,
        StandsUnder segment value inner ↔ items[index]? = some inner) ∧
      ((∀ index, ¬ Text.Spells segment.toList index) → ∀ inner,
        ¬ StandsUnder segment value inner)) ∧
    ((∀ members, value ≠ .object members) → (∀ items, value ≠ .array items) →
      ∀ path, path ≠ "" → lookup? value path = none) := by
  refine ⟨rfl, fun first last isFirst isLast => lookup?_append isFirst isLast value,
    exists_segments, fun segments dotless nonempty found => lookup?_intercalate dotless nonempty,
    ?_, ?_, ?_⟩
  · rintro members rfl distinct name inner
    exact standsUnder_object_iff distinct
  · rintro items rfl fits segment
    exact ⟨fun index spelled inner => standsUnder_array_iff fits spelled,
      fun noIndex inner => not_standsUnder_array noIndex⟩
  · exact fun noObject noArray path nonempty => lookup?_of_scalar nonempty noObject noArray

/-! Two teams, of which the one in the second place has a member without a name. -/

def sampleMembers : List (String × Json) :=
  [("", .bool true), ("name", .string "x")]

def sampleTeams : List Json :=
  [.null, .object sampleMembers]

def sampleInput : Json :=
  .object [("teams", .array sampleTeams)]

theorem sampleInput_paths :
    "teams.+01" ≠ "" ∧ "name" ≠ "" ∧
      lookup? sampleInput ("teams.+01" ++ "." ++ "name") = some (.string "x") ∧
      (∀ segment ∈ ["teams", "+01", ""], '.' ∉ segment.toList) ∧
      ".".intercalate ["teams", "+01", ""] ≠ "" ∧
      LeadsTo ["teams", "+01", ""] sampleInput (.bool true) ∧
      (sampleMembers.Pairwise fun one other => one.1 ≠ other.1) ∧
      StandsUnder "name" (.object sampleMembers) (.string "x") ∧
      sampleTeams.length ≤ Word.size64 ∧ Text.Spells "+01".toList 1 ∧
      StandsUnder "+01" (.array sampleTeams) (.object sampleMembers) ∧
      lookup? .null "name" = none := by
  have dotless : ∀ segment ∈ ["teams", "+01", ""], '.' ∉ segment.toList := by decide
  have nonempty : ".".intercalate ["teams", "+01", ""] ≠ "" := by decide
  have distinct : sampleMembers.Pairwise fun one other => one.1 ≠ other.1 := by decide
  have fits : sampleTeams.length ≤ Word.size64 := by decide
  have spelled : Text.Spells "+01".toList 1 := .signed ⟨1, rfl⟩
  rcases paths_compose sampleInput with ⟨_, composes, _, leads, _⟩
  rcases paths_compose (.object sampleMembers) with ⟨_, _, _, _, members, _⟩
  rcases paths_compose (.array sampleTeams) with ⟨_, _, _, _, _, items, _⟩
  rcases paths_compose .null with ⟨_, _, _, _, _, _, nothing⟩
  refine ⟨by decide, by decide, ?_, dotless, nonempty, ?_, distinct, ?_, fits, spelled, ?_, ?_⟩
  · rw [composes _ _ (by decide) (by decide)]
    decide
  · exact (leads _ dotless nonempty _).mp (by decide)
  · exact (members _ rfl distinct _ _).mpr (by decide)
  · exact ((items _ rfl fits _).1 1 spelled _).mpr rfl
  · exact nothing nofun nofun _ (by decide)

end TokenAuthority.Policy

import Mathlib.Data.List.Pairwise
import TokenAuthority.Proofs.Keys.Folder

/-!
# Names of files and ids of keys

A key has for its id the path of its file below the root, without the ending. Different files give
different ids, with one exception: of a name that is a dot and the ending the dot alone would be no
name, so that its id is that of the name with one dot more.
-/

namespace TokenAuthority.Keys

/-! ## Stems -/

/-- Two names with one stem. -/
def Twins (one other : String) : Prop :=
  one = "..pem" ∧ other = "...pem" ∨ one = "...pem" ∧ other = "..pem"

theorem stem?_eq_some_iff {name stem : String} :
    stem? name = some stem ↔
      ∃ front, front ≠ [] ∧ name.toList = front ++ ending ∧
        stem = if front = ['.'] then ".." else String.ofList front := by
  simp only [stem?]
  constructor
  · intro isStem
    split at isStem
    · rename_i counts
      cases isStem
      refine ⟨_, ?_, ?_, rfl⟩
      · intro nothing
        have length := congrArg List.length nothing
        simp only [List.length_take, List.length_nil] at length
        omega
      · have parts := (List.take_append_drop (name.toList.length - ending.length) name.toList).symm
        rwa [counts.2] at parts
    · cases isStem
  · rintro ⟨front, something, isName, rfl⟩
    have length : name.toList.length - ending.length = front.length := by
      rw [isName, List.length_append, Nat.add_sub_cancel]
    have longer : ending.length < name.toList.length := by
      rw [isName, List.length_append]
      have positive := List.length_pos_iff.mpr something
      omega
    rw [length, isName, List.drop_left, List.take_left, ← isName, if_pos ⟨longer, rfl⟩]

theorem stem?_ne_none_iff {name : String} :
    stem? name ≠ none ↔ ∃ front, front ≠ [] ∧ name.toList = front ++ ending := by
  rw [Option.ne_none_iff_exists']
  constructor
  · rintro ⟨stem, isStem⟩
    rcases stem?_eq_some_iff.mp isStem with ⟨front, something, isName, _⟩
    exact ⟨front, something, isName⟩
  · rintro ⟨front, something, isName⟩
    exact ⟨_, stem?_eq_some_iff.mpr ⟨front, something, isName, rfl⟩⟩

theorem stem_append_ending {name stem : String} (isStem : stem? name = some stem)
    (whole : name ≠ "..pem") : stem ++ ".pem" = name := by
  rcases stem?_eq_some_iff.mp isStem with ⟨front, _, isName, rfl⟩
  have more : front ≠ ['.'] := by
    rintro rfl
    exact whole (String.toList_inj.mp isName)
  rw [if_neg more]
  apply String.toList_inj.mp
  rw [String.toList_append, String.toList_ofList, isName]
  rfl

theorem eq_or_twins_of_stem {one other stem : String} (isOne : stem? one = some stem)
    (isOther : stem? other = some stem) : one = other ∨ Twins one other := by
  by_cases oneDot : one = "..pem"
  · by_cases otherDot : other = "..pem"
    · exact .inl (oneDot.trans otherDot.symm)
    · refine .inr (.inl ⟨oneDot, ?_⟩)
      rw [← stem_append_ending isOther otherDot]
      have isDots : some stem = some ".." := isOne ▸ oneDot ▸ (by decide)
      cases isDots
      rfl
  · by_cases otherDot : other = "..pem"
    · refine .inr (.inr ⟨?_, otherDot⟩)
      rw [← stem_append_ending isOne oneDot]
      have isDots : some stem = some ".." := isOther ▸ otherDot ▸ (by decide)
      cases isDots
      rfl
    · rw [← stem_append_ending isOne oneDot, ← stem_append_ending isOther otherDot]
      exact .inl rfl

theorem slash_not_mem_stem {name stem : String} (plain : '/' ∉ name.toList)
    (isStem : stem? name = some stem) : '/' ∉ stem.toList := by
  rcases stem?_eq_some_iff.mp isStem with ⟨front, _, isName, rfl⟩
  split
  · decide
  · rw [String.toList_ofList]
    intro member
    exact plain (isName ▸ List.mem_append_left ending member)

/-! ## Ids -/

theorem toList_idOf (above : List String) (stem : String) :
    (idOf above stem).toList = ['/'].intercalate ((above ++ [stem]).map String.toList) := by
  rw [idOf, String.toList_intercalate]
  rfl

theorem idOf_injective {above others : List String} {stem other : String}
    (plain : ∀ part ∈ above ++ [stem], '/' ∉ part.toList)
    (otherPlain : ∀ part ∈ others ++ [other], '/' ∉ part.toList)
    (same : idOf above stem = idOf others other) : above = others ∧ stem = other := by
  have split {parts : List String} (plain : ∀ part ∈ parts, '/' ∉ part.toList)
      (some : parts ≠ []) :
      (['/'].intercalate (parts.map String.toList)).splitOn '/' = parts.map String.toList := by
    apply List.splitOn_intercalate
    · simpa using plain
    · simpa using some
  have sameChars := congrArg String.toList same
  rw [toList_idOf, toList_idOf] at sameChars
  have sameParts := congrArg (List.splitOn '/') sameChars
  rw [split plain (by simp), split otherPlain (by simp)] at sameParts
  have injective : Function.Injective String.toList := fun _ _ => String.toList_inj.mp
  exact List.append_singleton_inj.mp (injective.list_map sameParts)

theorem idOf_append (above : List String) (stem more : String) :
    idOf above stem ++ more = idOf above (stem ++ more) := by
  induction above with
  | nil => rfl
  | cons folder above induction =>
      have step (last : String) : idOf (folder :: above) last =
          folder ++ "/" ++ idOf above last := by
        cases above <;> simp [idOf, String.intercalate_cons_cons]
      rw [step, step, ← induction]
      exact String.append_assoc ..

/-! ## Places -/

/-- In no folder do two members have one name, and no name has a slash in it. -/
inductive Proper : List (String × FileTree) → Prop where
  | nil : Proper []
  | cons {name : String} {tree : FileTree} {rest : List (String × FileTree)}
      (plain : '/' ∉ name.toList) (fresh : name ∉ rest.map Prod.fst)
      (inside : ∀ members, tree = .folder members → Proper members) (others : Proper rest) :
      Proper ((name, tree) :: rest)

section Places

variable {members : List (String × FileTree)} {above : List String}

theorem Proper.place_of_mem (proper : Proper members) {leaf : Leaf}
    (member : leaf ∈ leavesAmong above members) :
    ∃ name ∈ members.map Prod.fst, ∃ deeper, leaf.place = above ++ name :: deeper ∧
      ∀ part ∈ name :: deeper, '/' ∉ part.toList := by
  induction proper generalizing above with
  | nil => cases member
  | @cons name tree rest plain fresh _ _ insideInduction othersInduction =>
      rw [leavesAmong] at member
      rcases List.mem_append.mp member with first | member
      · refine ⟨name, List.mem_cons_self, ?_⟩
        -- What is no folder lies right under its name; what is in a folder lies further below.
        have single : leaf.place = above ++ [name] →
            ∃ deeper, leaf.place = above ++ name :: deeper ∧
              ∀ part ∈ name :: deeper, '/' ∉ part.toList := by
          intro isPlace
          exact ⟨[], isPlace, by simpa using plain⟩
        cases tree with
        | folder inner =>
            rw [leavesIn] at first
            rcases insideInduction inner rfl first with ⟨next, _, deeper, isPlace, plains⟩
            refine ⟨next :: deeper, by rw [isPlace, List.append_assoc]; rfl, ?_⟩
            exact List.forall_mem_cons.mpr ⟨plain, plains⟩
        | file content =>
            rcases List.mem_singleton.mp first with rfl
            exact single rfl
        | unreadable =>
            rcases List.mem_singleton.mp first with rfl
            exact single rfl
        | unlistable =>
            rcases List.mem_singleton.mp first with rfl
            exact single rfl
      · rcases othersInduction member with ⟨other, isMember, deeper, isPlace, plains⟩
        exact ⟨other, List.mem_cons_of_mem name isMember, deeper, isPlace, plains⟩

theorem Proper.pairwise_place (proper : Proper members) (above : List String) :
    (leavesAmong above members).Pairwise fun one other => one.place ≠ other.place := by
  induction proper generalizing above with
  | nil => exact List.Pairwise.nil
  | @cons name tree rest plain fresh inside others insideInduction othersInduction =>
      rw [leavesAmong]
      refine List.pairwise_append.mpr ⟨?_, othersInduction above, ?_⟩
      · cases tree with
        | folder inner => exact insideInduction inner rfl (above ++ [name])
        | _ => exact List.pairwise_singleton _ _
      · intro one first other later same
        -- All leaves of the first member are under its name, which no other member has.
        have alone : Proper [(name, tree)] := .cons plain (by simp) inside .nil
        have firstAlone : one ∈ leavesAmong above [(name, tree)] := by
          rw [leavesAmong, leavesAmong, List.append_nil]
          exact first
        rcases alone.place_of_mem firstAlone with ⟨_, isName, deeper, isPlace, _⟩
        rcases List.mem_singleton.mp isName with rfl
        rcases others.place_of_mem later with ⟨further, isMember, otherDeeper, isOther, _⟩
        rw [isPlace, isOther] at same
        rcases List.cons.inj (List.append_cancel_left same) with ⟨rfl, _⟩
        exact fresh isMember

/-! ## Ids of leaves -/

namespace Leaf

def id? (leaf : Leaf) : Option String :=
  (stem? leaf.name).map (idOf leaf.above)

def IsTwin (leaf other : Leaf) : Prop :=
  leaf.above = other.above ∧ Twins leaf.name other.name

theorem id?_of_carries {leaf : Leaf} {material : Material} (carries : leaf.Carries material) :
    leaf.id? = some material.id := by
  rcases carries with ⟨_, stem, _, _, isStem, _, isId, _⟩
  rw [id?, isStem, isId]
  rfl

theorem id?_append {leaf : Leaf} {id : String} (isId : leaf.id? = some id)
    (whole : leaf.name ≠ "..pem") : id ++ ".pem" = "/".intercalate leaf.place := by
  rcases Option.map_eq_some_iff.mp isId with ⟨stem, isStem, rfl⟩
  rw [idOf_append, stem_append_ending isStem whole]
  rfl

end Leaf

theorem Proper.eq_or_twin (proper : Proper members) {one other : Leaf} {id : String}
    (isOne : one ∈ leavesAmong [] members) (isOther : other ∈ leavesAmong [] members)
    (oneId : one.id? = some id) (otherId : other.id? = some id) :
    one = other ∨ one.IsTwin other := by
  rcases Option.map_eq_some_iff.mp oneId with ⟨stem, isStem, same⟩
  rcases Option.map_eq_some_iff.mp otherId with ⟨otherStem, isOtherStem, rfl⟩
  have plain {leaf : Leaf} {stem : String} (member : leaf ∈ leavesAmong [] members)
      (isStem : stem? leaf.name = some stem) :
      ∀ part ∈ leaf.above ++ [stem], '/' ∉ part.toList := by
    rcases proper.place_of_mem member with ⟨name, _, deeper, isPlace, plains⟩
    have inPlace : ∀ part ∈ leaf.above ++ [leaf.name], '/' ∉ part.toList := by
      rw [show leaf.above ++ [leaf.name] = name :: deeper from isPlace]
      exact plains
    intro part inParts
    rcases List.mem_append.mp inParts with folder | last
    · exact inPlace part (List.mem_append_left _ folder)
    · rcases List.mem_singleton.mp last with rfl
      exact slash_not_mem_stem (inPlace leaf.name (by simp)) isStem
  rcases idOf_injective (plain isOne isStem) (plain isOther isOtherStem) same with
    ⟨sameAbove, rfl⟩
  rcases eq_or_twins_of_stem isStem isOtherStem with sameName | twins
  · left
    have samePlace : one.place = other.place := by rw [Leaf.place, Leaf.place, sameAbove, sameName]
    have symmetric : Std.Symm fun one other : Leaf => one.place ≠ other.place :=
      ⟨fun _ _ differ => differ.symm⟩
    by_contra differ
    exact (proper.pairwise_place []).forall isOne isOther differ samePlace
  · exact .inr ⟨sameAbove, twins⟩

end Places

end TokenAuthority.Keys

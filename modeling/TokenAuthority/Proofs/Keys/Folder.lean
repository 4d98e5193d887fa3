import Mathlib.Data.List.Perm.Basic
import TokenAuthority.Keys.Store

/-!
# What a folder holds

A folder is read by walking through all folders below it. What is found on the way that is no folder
itself, a leaf, is read on its own; the walk puts together what the leaves carry, and the first leaf
with a fault ends it.
-/

namespace TokenAuthority.Keys

open Crypto.Rsa (PrivateKey)

/-! ## Leaves -/

inductive Found where
  | file (content : List UInt8)
  | unreadable
  /-- A folder that cannot be walked through. -/
  | unlistable

/-- Something that is no folder, where it was found. -/
structure Leaf where
  above : List String
  name : String
  found : Found

mutual

def leavesIn (above : List String) (name : String) : FileTree → List Leaf
  | .folder members => leavesAmong (above ++ [name]) members
  | .file content => [{ above, name, found := .file content }]
  | .unreadable => [{ above, name, found := .unreadable }]
  | .unlistable => [{ above, name, found := .unlistable }]

def leavesAmong (above : List String) : List (String × FileTree) → List Leaf
  | [] => []
  | (name, member) :: rest => leavesIn above name member ++ leavesAmong above rest

end

namespace Leaf

def place (leaf : Leaf) : List String :=
  leaf.above ++ [leaf.name]

def path (root : String) (leaf : Leaf) : String :=
  leaf.place.foldl FileTree.join root

def read (root : String) (leaf : Leaf) : Except KeyError (Option Material) :=
  match leaf.found with
  | .unlistable => .error (.unlistable (leaf.path root))
  | .unreadable =>
      match stem? leaf.name with
      | some _ => .error (.unreadable (leaf.path root))
      | none => .ok none
  | .file content =>
      match stem? leaf.name with
      | some stem => (materialOf (leaf.path root) (idOf leaf.above stem) content).map some
      | none => .ok none

end Leaf

/-! ## The walk -/

def readAll (root : String) : List Leaf → Except KeyError (List Material)
  | [] => .ok []
  | leaf :: rest => do
      let first ← leaf.read root
      let others ← readAll root rest
      .ok (first.toList ++ others)

theorem readAll_append (root : String) (left right : List Leaf) :
    readAll root (left ++ right) = (do
      let first ← readAll root left
      let others ← readAll root right
      .ok (first ++ others)) := by
  induction left with
  | nil =>
      change readAll root right = (readAll root right).bind fun others => .ok others
      cases readAll root right <;> rfl
  | cons leaf rest induction =>
      simp only [List.cons_append, readAll, induction]
      cases leaf.read root with
      | error fault => rfl
      | ok first =>
          cases readAll root rest with
          | error fault => rfl
          | ok others =>
              cases readAll root right with
              | error fault => rfl
              | ok further => exact congrArg Except.ok (List.append_assoc ..).symm

mutual

theorem materialsIn_eq (root : String) (above : List String) (name : String) :
    (tree : FileTree) →
      materialsIn (above.foldl FileTree.join root) above name tree =
        readAll root (leavesIn above name tree)
  | .folder members => by
      have deeper := materialsAmong_eq root (above ++ [name]) members
      rw [List.foldl_append] at deeper
      rw [materialsIn, leavesIn]
      exact deeper
  | .file content => by
      have samePath : FileTree.join (above.foldl FileTree.join root) name =
          Leaf.path root { above, name, found := .file content } := by
        simp [Leaf.path, Leaf.place, List.foldl_append]
      simp only [materialsIn, leavesIn, readAll, Leaf.read, samePath]
      cases stem? name with
      | none => rfl
      | some stem =>
          dsimp only
          generalize materialOf _ _ content = material
          cases material <;> rfl
  | .unreadable => by
      have samePath : FileTree.join (above.foldl FileTree.join root) name =
          Leaf.path root { above, name, found := .unreadable } := by
        simp [Leaf.path, Leaf.place, List.foldl_append]
      simp only [materialsIn, leavesIn, readAll, Leaf.read, samePath]
      cases stem? name <;> rfl
  | .unlistable => by
      simp only [materialsIn, leavesIn, readAll, Leaf.read, Leaf.path, Leaf.place,
        List.foldl_append, List.foldl_cons, List.foldl_nil]
      rfl

theorem materialsAmong_eq (root : String) (above : List String) :
    (members : List (String × FileTree)) →
      materialsAmong (above.foldl FileTree.join root) above members =
        readAll root (leavesAmong above members)
  | [] => rfl
  | (name, member) :: rest => by
      rw [materialsAmong, leavesAmong, readAll_append, materialsIn_eq root above name member,
        materialsAmong_eq root above rest]

end

/-! ## Keys in files -/

/-- Up to the size that is read, the content of a file is a text, not a blank one, and the text is
that of a key. -/
structure HoldsKey (content : List UInt8) (text : String) (key : PrivateKey) : Prop where
  visible : (content.take maximumSize).all Text.isBlankByte = false
  isText : Text.decode? (content.take maximumSize) = some text
  isKey : readPrivate text = .ok key

theorem readPrivate_eq_ok {text : String} {key : PrivateKey} (isKey : readPrivate text = .ok key) :
    belongs key = true ∧ ∃ content,
      Crypto.Armor.readStrict? "RSA PRIVATE KEY" text = some content ∧
          PrivateKey.ofBytes? content = some key ∨
        Crypto.Armor.readStrict? "PRIVATE KEY" text = some content ∧
          PrivateKey.ofTagged? content = some key := by
  unfold readPrivate at isKey
  dsimp only at isKey
  split at isKey
  · rename_i found isFound
    split at isKey
    · rename_i belongs
      cases isKey
      refine ⟨belongs, ?_⟩
      rcases Option.or_eq_some_iff.mp isFound with bare | ⟨_, contained⟩
      · rcases Option.bind_eq_some_iff.mp bare with ⟨content, isRead, isFound⟩
        exact ⟨content, .inl ⟨isRead, isFound⟩⟩
      · rcases Option.bind_eq_some_iff.mp contained with ⟨content, isRead, isFound⟩
        exact ⟨content, .inr ⟨isRead, isFound⟩⟩
    · cases isKey
  · cases isKey

theorem notKey_of_readPrivate {text : String} {fault : FileFault}
    (unread : readPrivate text = .error fault) : fault = .notKey := by
  unfold readPrivate at unread
  dsimp only at unread
  split at unread
  · split at unread
    · cases unread
    · cases unread
      rfl
  · cases unread
    rfl

theorem materialOf_of_holdsKey {content : List UInt8} {text : String} {key : PrivateKey}
    (holds : HoldsKey content text key) (path id : String) :
    materialOf path id content =
      .ok { id, privateText := text, publicText := writePublic key.publicKey } := by
  have isText : textOf path content = .ok text := by
    simp only [textOf, holds.visible, holds.isText, Bool.false_eq_true, if_false]
  simp only [materialOf, isText, Material.ofPrivate, bind, Except.bind, holds.isKey, Except.map,
    Except.mapError]

theorem materialOf_cases (path id : String) (content : List UInt8) :
    (∃ text key, HoldsKey content text key) ∨
      (content.take maximumSize).all Text.isBlankByte = true ∧
        materialOf path id content = .error (.emptyFile path) ∨
      Text.decode? (content.take maximumSize) = none ∧
        materialOf path id content = .error (.invalidKey path .notText) ∨
      ∃ text, Text.decode? (content.take maximumSize) = some text ∧
        readPrivate text = .error .notKey ∧
        materialOf path id content = .error (.invalidKey path .notKey) := by
  cases blank : (content.take maximumSize).all Text.isBlankByte with
  | true =>
      refine .inr (.inl ⟨rfl, ?_⟩)
      simp only [materialOf, textOf, blank, if_true, bind, Except.bind]
  | false =>
      cases decoded : Text.decode? (content.take maximumSize) with
      | none =>
          refine .inr (.inr (.inl ⟨rfl, ?_⟩))
          simp only [materialOf, textOf, blank, decoded, Bool.false_eq_true, if_false, bind,
            Except.bind]
      | some text =>
          cases isKey : readPrivate text with
          | ok key => exact .inl ⟨text, key, blank, decoded, isKey⟩
          | error fault =>
              rcases notKey_of_readPrivate isKey with rfl
              refine .inr (.inr (.inr ⟨text, rfl, isKey, ?_⟩))
              simp only [materialOf, textOf, blank, decoded, Bool.false_eq_true, if_false, bind,
                Except.bind, Material.ofPrivate, isKey, Except.map, Except.mapError]

/-! ## What leaves carry -/

namespace Leaf

def Carries (leaf : Leaf) (material : Material) : Prop :=
  ∃ content stem key, leaf.found = .file content ∧ stem? leaf.name = some stem ∧
    HoldsKey content material.privateText key ∧ material.id = idOf leaf.above stem ∧
    material.publicText = writePublic key.publicKey

/-- Whether a leaf has a say in what comes of the walk. -/
def counts (leaf : Leaf) : Bool :=
  match leaf.found with
  | .unlistable => true
  | _ => (stem? leaf.name).isSome

/-- Nothing is wrong with a leaf that does not count, unless it is a folder. -/
def Good (leaf : Leaf) : Prop :=
  match leaf.found with
  | .unlistable => False
  | .unreadable => stem? leaf.name = none
  | .file content => stem? leaf.name = none ∨ ∃ text key, HoldsKey content text key

inductive Fault (root : String) (leaf : Leaf) : KeyError → Prop where
  | unlistable (isFound : leaf.found = .unlistable) : Fault root leaf (.unlistable (leaf.path root))
  | unreadable (isFound : leaf.found = .unreadable) (counts : stem? leaf.name ≠ none) :
      Fault root leaf (.unreadable (leaf.path root))
  | empty {content : List UInt8} (isFound : leaf.found = .file content)
      (counts : stem? leaf.name ≠ none)
      (blank : (content.take maximumSize).all Text.isBlankByte = true) :
      Fault root leaf (.emptyFile (leaf.path root))
  | notText {content : List UInt8} (isFound : leaf.found = .file content)
      (counts : stem? leaf.name ≠ none)
      (undecodable : Text.decode? (content.take maximumSize) = none) :
      Fault root leaf (.invalidKey (leaf.path root) .notText)
  | notKey {content : List UInt8} {text : String} (isFound : leaf.found = .file content)
      (counts : stem? leaf.name ≠ none)
      (isText : Text.decode? (content.take maximumSize) = some text)
      (unread : readPrivate text = .error .notKey) :
      Fault root leaf (.invalidKey (leaf.path root) .notKey)

variable {root : String} {leaf : Leaf} {material : Material}

theorem Fault.not_good {fault : KeyError} (isFault : leaf.Fault root fault) : ¬ leaf.Good := by
  cases isFault with
  | unlistable isFound => simp only [Good, isFound, not_false_eq_true]
  | unreadable isFound counts => simpa only [Good, isFound] using counts
  | empty isFound counts blank =>
      simp only [Good, isFound]
      rintro (uncounted | ⟨text, key, holds⟩)
      · exact counts uncounted
      · exact Bool.noConfusion (blank.symm.trans holds.visible)
  | notText isFound counts undecodable =>
      simp only [Good, isFound]
      rintro (uncounted | ⟨text, key, holds⟩)
      · exact counts uncounted
      · cases undecodable.symm.trans holds.isText
  | notKey isFound counts isText unread =>
      simp only [Good, isFound]
      rintro (uncounted | ⟨text, key, holds⟩)
      · exact counts uncounted
      · cases isText.symm.trans holds.isText
        cases unread.symm.trans holds.isKey

theorem read_of_carries (carries : leaf.Carries material) (root : String) :
    leaf.read root = .ok (some material) := by
  rcases carries with ⟨content, stem, key, isFound, counts, holds, isId, isPublic⟩
  rcases material with ⟨id, privateText, publicText⟩
  obtain rfl : id = idOf leaf.above stem := isId
  obtain rfl : publicText = writePublic key.publicKey := isPublic
  simp only [read, isFound, counts, materialOf_of_holdsKey holds, Except.map]

theorem read_cases (root : String) (leaf : Leaf) :
    leaf.Good ∧ (leaf.read root = .ok none ∧ (∀ material, ¬ leaf.Carries material) ∨
        ∃ material, leaf.read root = .ok (some material) ∧ leaf.Carries material) ∨
      ∃ fault, leaf.read root = .error fault ∧ leaf.Fault root fault := by
  cases isFound : leaf.found with
  | unlistable =>
      refine .inr ⟨_, ?_, .unlistable isFound⟩
      simp only [read, isFound]
  | unreadable =>
      cases counts : stem? leaf.name with
      | none =>
          refine .inl ⟨by simp only [Good, isFound, counts], .inl ⟨?_, ?_⟩⟩
          · simp only [read, isFound, counts]
          · rintro material ⟨_, _, _, isFile, _⟩
            cases isFound.symm.trans isFile
      | some stem =>
          refine .inr ⟨_, ?_, .unreadable isFound (by simp [counts])⟩
          simp only [read, isFound, counts]
  | file content =>
      cases counts : stem? leaf.name with
      | none =>
          refine .inl ⟨by simp only [Good, isFound, counts, true_or], .inl ⟨?_, ?_⟩⟩
          · simp only [read, isFound, counts]
          · rintro material ⟨_, _, _, _, isStem, _⟩
            cases counts.symm.trans isStem
      | some stem =>
          have isRead : leaf.read root =
              (materialOf (leaf.path root) (idOf leaf.above stem) content).map some := by
            simp only [read, isFound, counts]
          have counted : stem? leaf.name ≠ none := by simp [counts]
          rcases materialOf_cases (leaf.path root) (idOf leaf.above stem) content with
            ⟨text, key, holds⟩ | ⟨blank, fails⟩ | ⟨undecodable, fails⟩ |
            ⟨text, isText, unread, fails⟩
          · have carries : leaf.Carries ⟨_, text, _⟩ :=
              ⟨content, stem, key, isFound, counts, holds, rfl, rfl⟩
            refine .inl ⟨?_, .inr ⟨_, read_of_carries carries root, carries⟩⟩
            simp only [Good, isFound]
            exact .inr ⟨text, key, holds⟩
          · exact .inr ⟨_, by rw [isRead, fails, Except.map], .empty isFound counted blank⟩
          · exact .inr ⟨_, by rw [isRead, fails, Except.map], .notText isFound counted undecodable⟩
          · exact .inr ⟨_, by rw [isRead, fails, Except.map], .notKey isFound counted isText unread⟩

theorem read_of_uncounted (uncounted : leaf.counts = false) (root : String) :
    leaf.read root = .ok none := by
  cases isFound : leaf.found with
  | unlistable => simp only [counts, isFound, Bool.true_eq_false] at uncounted
  | unreadable =>
      have noStem : stem? leaf.name = none := by simpa [counts, isFound] using uncounted
      simp only [read, isFound, noStem]
  | file content =>
      have noStem : stem? leaf.name = none := by simpa [counts, isFound] using uncounted
      simp only [read, isFound, noStem]

def material? (leaf : Leaf) : Option Material :=
  (leaf.read "").toOption.join

theorem material?_eq_some_iff : leaf.material? = some material ↔ leaf.Carries material := by
  constructor
  · intro isCarried
    rcases leaf.read_cases "" with ⟨_, ⟨isRead, _⟩ | ⟨other, isRead, carries⟩⟩ | ⟨_, isRead, _⟩
    · simp [material?, isRead, Except.toOption] at isCarried
    · simp only [material?, isRead, Except.toOption, Option.join_some, Option.some.injEq]
        at isCarried
      exact isCarried ▸ carries
    · simp [material?, isRead, Except.toOption] at isCarried
  · intro carries
    simp only [material?, read_of_carries carries, Except.toOption, Option.join_some]

theorem read_of_good (good : leaf.Good) (root : String) : leaf.read root = .ok leaf.material? := by
  rcases leaf.read_cases root with
    ⟨_, ⟨isRead, carriesNothing⟩ | ⟨material, isRead, carries⟩⟩ | ⟨_, _, isFault⟩
  · cases isCarried : leaf.material? with
    | none => exact isRead
    | some material => exact absurd (material?_eq_some_iff.mp isCarried) (carriesNothing material)
  · rw [isRead, material?_eq_some_iff.mpr carries]
  · exact absurd good isFault.not_good

theorem good_of_read {found : Option Material} (isRead : leaf.read root = .ok found) :
    leaf.Good := by
  rcases leaf.read_cases root with ⟨good, _⟩ | ⟨_, fails, _⟩
  · exact good
  · cases isRead.symm.trans fails

theorem fault_of_read {fault : KeyError} (isRead : leaf.read root = .error fault) :
    leaf.Fault root fault := by
  rcases leaf.read_cases root with ⟨_, ⟨other, _⟩ | ⟨_, other, _⟩⟩ | ⟨_, other, isFault⟩
  · cases isRead.symm.trans other
  · cases isRead.symm.trans other
  · cases isRead.symm.trans other
    exact isFault

end Leaf

theorem readAll_of_good (root : String) {leaves : List Leaf} (good : ∀ leaf ∈ leaves, leaf.Good) :
    readAll root leaves = .ok (leaves.filterMap Leaf.material?) := by
  induction leaves with
  | nil => rfl
  | cons leaf rest induction =>
      have others := induction fun other member => good other (List.mem_cons_of_mem leaf member)
      have first := Leaf.read_of_good (good leaf List.mem_cons_self) root
      simp only [readAll, first, others, List.filterMap_cons]
      cases leaf.material? <;> rfl

theorem good_of_readAll {root : String} {leaves : List Leaf} {materials : List Material}
    (isRead : readAll root leaves = .ok materials) : ∀ leaf ∈ leaves, leaf.Good := by
  induction leaves generalizing materials with
  | nil => exact fun _ member => nomatch member
  | cons leaf rest induction =>
      rw [readAll] at isRead
      cases first : leaf.read root with
      | error fault =>
          rw [first] at isRead
          cases isRead
      | ok found =>
          cases others : readAll root rest with
          | error fault =>
              rw [first, others] at isRead
              cases isRead
          | ok further => exact List.forall_mem_cons.mpr ⟨Leaf.good_of_read first, induction others⟩

theorem readAll_eq_ok_iff {root : String} {leaves : List Leaf} {materials : List Material} :
    readAll root leaves = .ok materials ↔
      (∀ leaf ∈ leaves, leaf.Good) ∧ materials = leaves.filterMap Leaf.material? := by
  constructor
  · intro isRead
    have good := good_of_readAll isRead
    cases (readAll_of_good root good).symm.trans isRead
    exact ⟨good, rfl⟩
  · rintro ⟨good, rfl⟩
    exact readAll_of_good root good

theorem readAll_filter (root : String) (leaves : List Leaf) :
    readAll root (leaves.filter Leaf.counts) = readAll root leaves := by
  induction leaves with
  | nil => rfl
  | cons leaf rest induction =>
      cases counts : leaf.counts with
      | true =>
          rw [List.filter_cons_of_pos counts, readAll, readAll, induction]
      | false =>
          rw [List.filter_cons_of_neg (by simp [counts]), readAll, induction,
            Leaf.read_of_uncounted counts]
          cases readAll root rest <;> rfl

theorem fault_of_readAll {root : String} {leaves : List Leaf} {fault : KeyError}
    (fails : readAll root leaves = .error fault) : ∃ leaf ∈ leaves, leaf.Fault root fault := by
  induction leaves with
  | nil => cases fails
  | cons leaf rest induction =>
      rw [readAll] at fails
      cases first : leaf.read root with
      | error given =>
          rw [first] at fails
          cases fails
          exact ⟨leaf, List.mem_cons_self, Leaf.fault_of_read first⟩
      | ok found =>
          cases others : readAll root rest with
          | error given =>
              rw [first, others] at fails
              cases fails
              rcases induction others with ⟨bad, member, isFault⟩
              exact ⟨bad, List.mem_cons_of_mem leaf member, isFault⟩
          | ok materials =>
              rw [first, others] at fails
              cases fails

end TokenAuthority.Keys

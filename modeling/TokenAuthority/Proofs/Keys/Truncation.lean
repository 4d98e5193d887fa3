import Mathlib.Data.List.Forall2
import TokenAuthority.Proofs.Crypto.Armor
import TokenAuthority.Proofs.Keys.Loading
import TokenAuthority.Proofs.Text.Utf8

/-!
# Files that are too long

Of a file no more than its first bytes are read, up to a limit, and nothing says so. A file that
goes on behind the limit is taken for its beginning: it makes the folder unloadable if that is no
key, and if it is one, the key is loaded and the rest is lost. The beginning can only be a key if it
ends with the line that closes one.
-/

namespace TokenAuthority.Keys

open Crypto (Armor)
open Crypto.Rsa (PrivateKey)

/-! ## Beginnings that are keys -/

/-- The bytes end with the line that closes a private key, and perhaps with the end of that
line. -/
def EndsWithKey (head : List UInt8) : Prop :=
  ∃ front label lineEnd, (label = "RSA PRIVATE KEY" ∨ label = "PRIVATE KEY") ∧
    (lineEnd = [] ∨ lineEnd ∈ Armor.lineEnds) ∧
    head = front ++ Text.encode (String.ofList (Armor.closing label ++ lineEnd))

theorem EndsWithKey.dash_mem {head : List UInt8} (ends : EndsWithKey head) : 0x2D ∈ head := by
  rcases ends with ⟨front, label, lineEnd, _, _, rfl⟩
  have isMark : '-' ∈ Armor.closing label ++ lineEnd := by
    simp only [Armor.closing, List.mem_append]
    exact .inl (.inl (.inl (by decide)))
  have dash : 0x2D ∈ Text.encode (String.ofList (Armor.closing label ++ lineEnd)) := by
    rw [Text.encode, String.toList_ofList]
    exact List.mem_flatMap.mpr ⟨'-', isMark, by decide⟩
  exact List.mem_append_right front dash

theorem EndsWithKey.visible {head : List UInt8} (ends : EndsWithKey head) :
    head.all Text.isBlankByte = false :=
  List.all_eq_false.mpr ⟨0x2D, ends.dash_mem, by decide⟩

theorem endsWithKey_of_readStrict? {label text : String} {content : List UInt8}
    (isRead : Armor.readStrict? label text = some content)
    (isPrivate : label = "RSA PRIVATE KEY" ∨ label = "PRIVATE KEY") :
    EndsWithKey (Text.encode text) := by
  rcases Armor.exists_block isRead with ⟨block, isText, _⟩
  refine ⟨(block.front ++ Armor.opening label ++ block.between).flatMap Text.encodeChar, label,
    block.after, isPrivate, block.isAfter, ?_⟩
  rw [Text.encode, Text.encode, isText, String.toList_ofList, ← List.flatMap_append,
    Armor.Block.text, List.append_assoc]

theorem endsWithKey_of_readPrivate {text : String} {key : PrivateKey}
    (isKey : readPrivate text = .ok key) : EndsWithKey (Text.encode text) := by
  rcases readPrivate_eq_ok isKey with ⟨_, content, ⟨isRead, _⟩ | ⟨isRead, _⟩⟩
  · exact endsWithKey_of_readStrict? isRead (.inl rfl)
  · exact endsWithKey_of_readStrict? isRead (.inr rfl)

theorem HoldsKey.encode_eq {content : List UInt8} {text : String} {key : PrivateKey}
    (holds : HoldsKey content text key) : Text.encode text = content.take maximumSize :=
  Text.encode_of_decode? holds.isText

/-! ## What is behind the limit -/

inductive Found.SameHead : Found → Found → Prop where
  | same (found : Found) : SameHead found found
  | files {content other : List UInt8}
      (same : content.take maximumSize = other.take maximumSize) :
      SameHead (.file content) (.file other)

structure Leaf.SameHead (left right : Leaf) : Prop where
  above : left.above = right.above
  name : left.name = right.name
  found : left.found.SameHead right.found

theorem Leaf.SameHead.read_eq {left right : Leaf} (same : left.SameHead right) (root : String) :
    left.read root = right.read root := by
  rcases left with ⟨above, name, leftFound⟩
  rcases right with ⟨_, _, rightFound⟩
  cases same.above
  cases same.name
  have found : leftFound.SameHead rightFound := same.found
  cases found with
  | same => rfl
  | files sameHead => simp only [Leaf.read, materialOf, textOf, sameHead, Leaf.path, Leaf.place]

theorem readAll_of_sameHead {left right : List Leaf}
    (same : List.Forall₂ Leaf.SameHead left right) (root : String) :
    readAll root left = readAll root right := by
  induction same with
  | nil => rfl
  | cons first _ induction => rw [readAll, readAll, first.read_eq, induction]

/-! ## Padded keys -/

/-- Puts fillers and the end of a line in front of a text, so that it ends at the limit. -/
def padded (text : String) : String :=
  String.ofList (List.replicate (maximumSize - 1 - (Text.encode text).length) '#' ++
    '\n' :: text.toList)

theorem toList_padded (text : String) :
    (padded text).toList =
      List.replicate (maximumSize - 1 - (Text.encode text).length) '#' ++ '\n' :: text.toList :=
  String.toList_ofList

theorem length_encode_padded {text : String} (fits : (Text.encode text).length < maximumSize) :
    (Text.encode (padded text)).length = maximumSize := by
  have fillers : ∀ count, ((List.replicate count '#').flatMap Text.encodeChar).length = count := by
    intro count
    rw [List.flatMap_replicate]
    simp [Text.encodeChar]
  have lineEnd : (Text.encodeChar '\n').length = 1 := by decide
  rw [Text.encode, toList_padded, List.flatMap_append, List.flatMap_cons, List.length_append,
    List.length_append, fillers, lineEnd]
  change _ + (1 + (Text.encode text).length) = maximumSize
  omega

theorem readPrivate_padded {text : String} (opens : Armor.beginMark <+: text.toList) :
    readPrivate (padded text) = readPrivate text := by
  have plain : ∀ value ∈ List.replicate (maximumSize - 1 - (Text.encode text).length) '#',
      value.toNat ≠ 0 ∧ value ≠ '\n' ∧ value ≠ '-' := by
    intro value member
    rw [List.eq_of_mem_replicate member]
    decide
  have same := Armor.readStrict?_behind_line plain opens
  rw [String.ofList_toList] at same
  rw [readPrivate, readPrivate, padded, same, same]

theorem holdsKey_padded {text : String} {key : PrivateKey} (isKey : readPrivate text = .ok key)
    (opens : Armor.beginMark <+: text.toList) (fits : (Text.encode text).length < maximumSize)
    (tail : List UInt8) : HoldsKey (Text.encode (padded text) ++ tail) (padded text) key := by
  have head : (Text.encode (padded text) ++ tail).take maximumSize = Text.encode (padded text) := by
    rw [List.take_append_of_le_length (length_encode_padded fits).ge, ← length_encode_padded fits,
      List.take_length]
  have isPadded : readPrivate (padded text) = .ok key := by rw [readPrivate_padded opens, isKey]
  have visible := (endsWithKey_of_readPrivate isPadded).visible
  exact ⟨by rw [head, visible], by rw [head, Text.decode?_encode], isPadded⟩

/-! ## Folders -/

theorem load_single {content : List UInt8} {text : String} {key : PrivateKey}
    (holds : HoldsKey content text key) (path : String) :
    ∃ store, Store.load path (some (.folder [("key.pem", .file content)])) = .ok store ∧
      store.get "key" = .ok {
        id := "key", privateText := text, publicText := writePublic key.publicKey } := by
  let leaf : Leaf := { above := [], name := "key.pem", found := .file content }
  have leaves : leavesAmong [] [("key.pem", .file content)] = [leaf] := by
    simp only [leavesAmong, leavesIn, List.append_nil, leaf]
  have good : ∀ leaf ∈ leavesAmong [] [("key.pem", .file content)], leaf.Good := by
    rw [leaves]
    exact List.forall_mem_singleton.mpr (.inr ⟨text, key, holds⟩)
  have isStem : stem? "key.pem" = some "key" := by decide
  have isId : "key" = idOf [] "key" := by decide
  have carries : leaf.Carries {
      id := "key", privateText := text, publicText := writePublic key.publicKey } :=
    ⟨content, "key", key, rfl, isStem, holds, isId, rfl⟩
  refine ⟨_, load_eq_ok_iff.mpr ⟨good, rfl⟩, ?_⟩
  rw [leaves, List.filterMap_cons_some (Leaf.material?_eq_some_iff.mpr carries),
    List.filterMap_nil]
  exact Store.get_ofList_single rfl

/-- Of a file that counts only the beginning up to the limit plays a part. What is loaded of it is
that beginning, which is all of a file that is short enough. A longer file makes the folder
unloadable if its beginning does not end with the line that closes a key. If it does, the rest of
the file can be lost without notice: so it is of every key that fits, whatever follows it. -/
theorem load_cuts_files (path : String) (members : List (String × FileTree)) :
    let leaves := leavesAmong [] members
    let load := fun members => Store.load path (some (.folder members))
    (∀ others, List.Forall₂ Leaf.SameHead leaves (leavesAmong [] others) →
      load others = load members) ∧
    (∀ leaf ∈ leaves, ∀ content, leaf.found = .file content → stem? leaf.name ≠ none →
      maximumSize < content.length → ¬ EndsWithKey (content.take maximumSize) →
        ∃ fault, load members = .error fault) ∧
    (∀ store, load members = .ok store → ∀ id material, store.get id = .ok material →
      ∃ leaf ∈ leaves, ∃ content, leaf.found = .file content ∧ leaf.id? = some id ∧
        Text.encode material.privateText = content.take maximumSize ∧
        EndsWithKey (content.take maximumSize) ∧
        (content.length ≤ maximumSize → Text.encode material.privateText = content)) ∧
    ∀ text key, readPrivate text = .ok key → Armor.beginMark <+: text.toList →
      (Text.encode text).length < maximumSize → ∀ tail, ∃ store,
        load [("key.pem", .file (Text.encode (padded text) ++ tail))] = .ok store ∧
        store.get "key" = .ok {
          id := "key", privateText := padded text, publicText := writePublic key.publicKey } := by
  intro leaves load
  refine ⟨?_, ?_, ?_, ?_⟩
  · intro others same
    simp only [load, load_folder, readAll_of_sameHead same path, leaves]
  · intro leaf member content isFound counts long noKey
    cases loaded : load members with
    | error fault => exact ⟨fault, rfl⟩
    | ok store =>
        have good := (load_eq_ok_iff.mp loaded).1 leaf member
        simp only [Leaf.Good, isFound, counts, false_or] at good
        rcases good with ⟨text, key, holds⟩
        exact absurd (holds.encode_eq ▸ endsWithKey_of_readPrivate holds.isKey) noKey
  · intro store loaded id material isHeld
    rcases load_eq_ok_iff.mp loaded with ⟨_, rfl⟩
    rcases Store.mem_of_get?_ofList (Store.get_eq_ok_iff.mp isHeld) with ⟨isMaterial, rfl⟩
    rcases mem_filterMap_material?_iff.mp isMaterial with ⟨leaf, member, carries⟩
    have isId := Leaf.id?_of_carries carries
    rcases carries with ⟨content, _, key, isFound, _, holds, _⟩
    refine ⟨leaf, member, content, isFound, isId, holds.encode_eq,
      holds.encode_eq ▸ endsWithKey_of_readPrivate holds.isKey, ?_⟩
    intro short
    rw [holds.encode_eq, List.take_of_length_le short]
  · intro text key isKey opens fits tail
    exact load_single (holdsKey_padded isKey opens fits tail) path

/-! A folder with a file that is too long: it is loaded if there happens to be a key in front of the
limit, and it is not if there is none. -/

def endlessFolder : List (String × FileTree) :=
  [("key.pem", .file (List.replicate (maximumSize + 1) 0x41))]

theorem endlessFolder_unloadable :
    (∃ fault, Store.load "keys" (some (.folder endlessFolder)) = .error fault) ∧
      ∀ tail, ∃ store,
        Store.load "keys" (some (.folder
          [("key.pem", .file (Text.encode (padded sampleText) ++ tail))])) = .ok store ∧
        store.get "key" = .ok {
          id := "key", privateText := padded sampleText,
          publicText := writePublic sampleKey.publicKey } := by
  rcases load_cuts_files "keys" endlessFolder with ⟨_, rejects, _, cuts⟩
  refine ⟨?_, cuts sampleText sampleKey holdsKey_sampleText.isKey (by decide +kernel)
    (by decide +kernel)⟩
  have leaves : leavesAmong [] endlessFolder =
      [{ above := [], name := "key.pem",
         found := .file (List.replicate (maximumSize + 1) 0x41) }] := by
    simp only [endlessFolder, leavesAmong, leavesIn, List.append_nil]
  refine rejects _ (by rw [leaves]; exact List.mem_singleton.mpr rfl) _ rfl (by decide)
    (by rw [List.length_replicate]; exact Nat.lt_succ_self _) ?_
  intro ends
  have dash := ends.dash_mem
  rw [List.take_replicate] at dash
  cases List.eq_of_mem_replicate dash

end TokenAuthority.Keys

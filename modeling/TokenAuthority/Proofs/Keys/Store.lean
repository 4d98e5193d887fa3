import TokenAuthority.Proofs.Keys.Loading
import TokenAuthority.Proofs.Text.Order

/-!
# What stores show

A store is filled with one material after the other, and all that it shows of itself says the same
of them: under an id it has the last material of that id, and its ids are those under which it has
something, in the order of their bytes.
-/

namespace TokenAuthority.Keys

/-- What comes last among materials under an id. -/
def IsLast (materials : List Material) (id : String) (material : Material) : Prop :=
  material.id = id ∧ ∃ before after, materials = before ++ material :: after ∧
    ∀ later ∈ after, later.id ≠ id

namespace Store

structure Shows (store : Store) (materials : List Material) : Prop where
  underOwnId : ∀ entry ∈ store.materials.entries, entry.2.id = entry.1
  get : ∀ id material, store.get id = .ok material ↔ IsLast materials id material
  missing : ∀ id fault, store.get id = .error fault ↔
    fault = .notFound id ∧ ∀ material ∈ materials, material.id ≠ id
  increasing : store.ids.Pairwise fun one other => Text.encode one < Text.encode other
  listed : ∀ id, id ∈ store.ids ↔ ∃ material, store.get id = .ok material
  size : store.size = store.ids.length
  empty : store.isEmpty = true ↔ store.size = 0
  handsOver : ∀ id material, store.get id = .ok material →
    store.lookup.privateKey id = .now (.ok material.privateText) ∧
      store.lookup.publicKey id = .now (.ok material.publicText)
  refuses : ∀ id fault, store.get id = .error fault →
    store.lookup.privateKey id = .now (.error fault) ∧
      store.lookup.publicKey id = .now (.error fault)

variable {store : Store} {materials : List Material} {material : Material} {id : String}

theorem get_eq_error_iff {fault : KeyError} :
    store.get id = .error fault ↔ fault = .notFound id ∧ store.materials.get? id = none := by
  unfold get
  cases store.materials.get? id <;> simp [eq_comm]

theorem ids_increasing (store : Store) :
    store.ids.Pairwise fun one other => Text.encode one < Text.encode other := by
  refine List.pairwise_map.mpr (store.materials.ordered.imp ?_)
  intro one other below
  exact Text.encode_lt_encode_iff.mpr below

theorem mem_ids_iff : id ∈ store.ids ↔ ∃ material, store.get id = .ok material := by
  simp only [ids, Register.mem_names_iff, get_eq_ok_iff]

theorem get?_ofList_eq_some_iff :
    (ofList materials).materials.get? id = some material ↔ IsLast materials id material := by
  rw [get?_ofList, List.find?_eq_some_iff_append, beq_iff_eq, IsLast]
  refine and_congr_right fun _ => ?_
  constructor
  · rintro ⟨after, before, reversed, others⟩
    refine ⟨before.reverse, after.reverse, ?_, ?_⟩
    · rw [← List.reverse_reverse materials, reversed]
      simp
    · intro later member
      simpa using others later (List.mem_reverse.mp member)
  · rintro ⟨before, after, rfl, others⟩
    refine ⟨after.reverse, before.reverse, by simp, ?_⟩
    intro later member
    simpa using others later (List.mem_reverse.mp member)

theorem get?_ofList_eq_none_iff :
    (ofList materials).materials.get? id = none ↔ ∀ material ∈ materials, material.id ≠ id := by
  rw [get?_ofList, List.find?_eq_none]
  simp

theorem shows_ofList (materials : List Material) : (ofList materials).Shows materials where
  underOwnId := by
    rintro ⟨id, material⟩ member
    exact (mem_of_get?_ofList (Register.get?_eq_some_iff.mpr member)).2
  get id material := get_eq_ok_iff.trans get?_ofList_eq_some_iff
  missing id fault := by rw [get_eq_error_iff, get?_ofList_eq_none_iff]
  increasing := ids_increasing _
  listed _ := mem_ids_iff
  size := (List.length_map _).symm
  empty := by rw [isEmpty, size, List.isEmpty_iff, List.length_eq_zero_iff]
  handsOver id material isHeld := by
    simp only [lookup, isHeld, Except.map, and_self]
  refuses id fault fails := by
    simp only [lookup, fails, Except.map, and_self]

/-- A store shows the materials it was filled with, however it was made: an empty one none, one from
a list those of the list, and one from a folder those that the files carry, in the order in which
the folder is walked through. -/
theorem made_stores_show :
    empty.Shows [] ∧ (∀ materials, (ofList materials).Shows materials) ∧
      ∀ path root store, load path root = .ok store →
        ∃ members, root = some (.folder members) ∧
          store.Shows ((leavesAmong [] members).filterMap Leaf.material?) := by
  refine ⟨shows_ofList [], shows_ofList, ?_⟩
  intro path root store loaded
  unfold load at loaded
  split at loaded
  · rename_i members
    rcases load_eq_ok_iff.mp loaded with ⟨_, rfl⟩
    exact ⟨members, rfl, shows_ofList _⟩
  · cases loaded

/-! A folder with a key in a folder below it. -/

def nestedFolder : List (String × FileTree) :=
  [("b.pem", .file (Text.encode sampleText)),
    ("a", .folder [("é.pem", .file (Text.encode sampleCopy))])]

def nestedMaterial (id text : String) : Material where
  id := id
  privateText := text
  publicText := writePublic sampleKey.publicKey

theorem leaves_nestedFolder :
    leavesAmong [] nestedFolder =
      [{ above := [], name := "b.pem", found := .file (Text.encode sampleText) },
        { above := ["a"], name := "é.pem", found := .file (Text.encode sampleCopy) }] := by
  simp only [nestedFolder, leavesAmong, leavesIn, List.cons_append, List.nil_append]

theorem materials_nestedFolder :
    (leavesAmong [] nestedFolder).filterMap Leaf.material? =
      [nestedMaterial "b" sampleText, nestedMaterial "a/é" sampleCopy] := by
  have first : Leaf.material? ⟨[], "b.pem", .file (Text.encode sampleText)⟩ =
      some (nestedMaterial "b" sampleText) := by
    rw [Leaf.material?_eq_some_iff]
    exact ⟨_, "b", sampleKey, rfl, by decide, holdsKey_sampleText, by decide, rfl⟩
  have second : Leaf.material? ⟨["a"], "é.pem", .file (Text.encode sampleCopy)⟩ =
      some (nestedMaterial "a/é" sampleCopy) := by
    rw [Leaf.material?_eq_some_iff]
    exact ⟨_, "é", sampleKey, rfl, by decide, holdsKey_sampleCopy, by decide, rfl⟩
  rw [leaves_nestedFolder, List.filterMap_cons_some first, List.filterMap_cons_some second,
    List.filterMap_nil]

theorem nestedFolder_shown :
    ∃ store, load "keys" (some (.folder nestedFolder)) = .ok store ∧
      store.get "b" = .ok (nestedMaterial "b" sampleText) ∧
      store.lookup.privateKey "a/é" = .now (.ok sampleCopy) ∧
      store.lookup.publicKey "a" = .now (.error (.notFound "a")) ∧
      "a/é" ∈ store.ids := by
  have good : ∀ leaf ∈ leavesAmong [] nestedFolder, leaf.Good := by
    rw [leaves_nestedFolder]
    refine List.forall_mem_cons.mpr ⟨.inr ⟨_, _, holdsKey_sampleText⟩, ?_⟩
    exact List.forall_mem_singleton.mpr (.inr ⟨_, _, holdsKey_sampleCopy⟩)
  rcases exists_load_iff.mpr good with ⟨store, loaded⟩
  rcases made_stores_show.2.2 "keys" _ store loaded with ⟨members, same, shows⟩
  cases same
  rw [materials_nestedFolder] at shows
  have isFirst : store.get "b" = .ok (nestedMaterial "b" sampleText) :=
    (shows.get _ _).mpr ⟨rfl, [], _, rfl, by decide⟩
  have isSecond : store.get "a/é" = .ok (nestedMaterial "a/é" sampleCopy) :=
    (shows.get _ _).mpr ⟨rfl, [_], [], rfl, nofun⟩
  have isMissing : store.get "a" = .error (.notFound "a") :=
    (shows.missing _ _).mpr ⟨rfl, by decide⟩
  exact ⟨store, loaded, isFirst, (shows.handsOver _ _ isSecond).1, (shows.refuses _ _ isMissing).2,
    (shows.listed _).mpr ⟨_, isSecond⟩⟩

end Store

end TokenAuthority.Keys

import TokenAuthority.Proofs.Json.Fields
import TokenAuthority.Proofs.Json.Spelling

/-!
# Spelled containers

Arrays and objects that are written from spelled documents are spelled themselves. A spelling
carries its text, its document and the proof that the one spells the other, so that whatever is
built from spellings is read as it was written.
-/

namespace TokenAuthority.Json

open Reader
open Text (Glyph)

/-- A text with the document that it spells. -/
structure Spelling where
  text : String
  document : Document
  spells : Spells text.toList document

theorem Spelling.read?_text (spelling : Spelling) :
    Document.read? (Glyph.ofString spelling.text) = some spelling.document := by
  have steps : (Glyph.ofString spelling.text).foldlM Reader.step start =
      start.takeAll spelling.text.toList := by
    rw [Glyph.ofString, List.foldlM_map]
    rfl
  rw [Document.read?, steps]
  exact spelling.spells.whole

namespace Spelling

def ofText (text : String) : Spelling where
  text := writeString text
  document := .text (pieces text)
  spells := spells_writeString text

def ofInt (value : Int) : Spelling where
  text := writeInt value
  document := .number (Numeral.ofInt value)
  spells := spells_writeInt value

/-! ## Arrays -/

theorem toList_enclosed (opening closing : Char) (parts : List String) :
    (enclosed (String.singleton opening) (String.singleton closing) parts).toList =
      opening :: ((",".intercalate parts).toList ++ [closing]) := by
  simp [enclosed]

theorem toList_intercalate_cons (first second : String) (rest : List String) (behind : List Char) :
    (",".intercalate (first :: second :: rest)).toList ++ behind =
      (first.toList ++ [',']) ++ ((",".intercalate (second :: rest)).toList ++ behind) := by
  rw [String.intercalate_cons_cons]
  simp

theorem exists_toList_intercalate (first : String) (rest : List String) (behind : List Char) :
    ∃ others, (",".intercalate (first :: rest)).toList ++ behind = first.toList ++ others := by
  cases rest with
  | nil =>
      rw [String.intercalate_singleton]
      exact ⟨behind, rfl⟩
  | cons second rest =>
      rw [toList_intercalate_cons, List.append_assoc]
      exact ⟨_, rfl⟩

def behindItems (outer : List Frame) (read : List Document) : Reader where
  stack := .items read :: outer
  expected := .delimiter

theorem takeAll_items (outer : List Frame) (read : List Document) (first : Spelling)
    (rest : List Spelling) :
    Reader.takeAll { stack := .items read :: outer, expected := .value }
        ((",".intercalate ((first :: rest).map text)).toList ++ [']']) =
      supply outer (.array (read.reverse ++ (first :: rest).map document)) := by
  induction rest generalizing read first with
  | nil =>
      have closed : (behindItems outer (first.document :: read)).take ']' =
          supply outer (.array (first.document :: read).reverse) := rfl
      rw [List.map_singleton, String.intercalate_singleton, first.spells.inside _ ']' (by decide)]
      change (behindItems outer (first.document :: read)).take ']' = _
      rw [closed]
      simp
  | cons second others induction =>
      have goesOn : (behindItems outer (first.document :: read)).take ',' =
          some { stack := .items (first.document :: read) :: outer, expected := .value } := rfl
      have parts : (",".intercalate ((first :: second :: others).map text)).toList ++ [']'] =
          (first.text.toList ++ [',']) ++
            ((",".intercalate ((second :: others).map text)).toList ++ [']']) :=
        toList_intercalate_cons _ _ _ _
      rw [parts, takeAll_append, first.spells.inside _ ',' (by decide)]
      change ((behindItems outer (first.document :: read)).take ',').bind _ = _
      rw [goesOn, Option.bind_some, induction]
      simp

theorem takeAll_firstItem (stack : List Frame) (first : Spelling) (rest : List Char) :
    Reader.takeAll { stack, expected := .firstItem } (first.text.toList ++ rest) =
      Reader.takeAll { stack, expected := .value } (first.text.toList ++ rest) := by
  rcases first.spells.first with ⟨value, others, same, noBlank, noEnd⟩
  rw [same, List.cons_append, takeAll_cons, takeAll_cons]
  simp only [take, noBlank, noEnd, Bool.false_eq_true, if_false]

theorem spells_array (items : List Spelling) :
    Spells (enclosed "[" "]" (items.map text)).toList (.array (items.map document)) := by
  have parts := toList_enclosed '[' ']' (items.map text)
  apply spells_of_supplies
  · exact ⟨'[', _, parts, by decide, by decide⟩
  intro stack
  have opened : take { stack, expected := .value } '[' =
      some { stack := .items [] :: stack, expected := .firstItem } := rfl
  refine (congrArg _ parts).trans ?_
  rw [takeAll_cons, opened, Option.bind_some]
  cases items with
  | nil =>
      have empty : (",".intercalate (([] : List Spelling).map text)).toList = [] := by simp
      rw [empty, List.nil_append, takeAll_singleton]
      rfl
  | cons first rest =>
      rcases exists_toList_intercalate first.text (rest.map text) [']'] with ⟨others, same⟩
      have items := takeAll_items stack [] first rest
      rw [List.map_cons, same] at items ⊢
      rw [takeAll_firstItem, items]
      rfl

def array (items : List Spelling) : Spelling where
  text := enclosed "[" "]" (items.map text)
  document := .array (items.map document)
  spells := spells_array items

/-! ## Objects -/

def memberText (member : String × Spelling) : String :=
  writeMember member.1 member.2.text

def memberDocument (member : String × Spelling) : List Piece × Document :=
  (pieces member.1, member.2.document)

def behindMembers (outer : List Frame) (read : List (List Piece × Document)) : Reader where
  stack := .members read :: outer
  expected := .delimiter

theorem takeAll_member (outer : List Frame) (read : List (List Piece × Document))
    (member : String × Spelling) {closing : Char} (closes : closing ∈ closings) :
    Reader.takeAll { stack := .members read :: outer, expected := .key }
        ((memberText member).toList ++ [closing]) =
      (behindMembers outer (memberDocument member :: read)).take closing := by
  have text : (memberText member).toList ++ [closing] =
      ['"'] ++ ((member.1.toList.flatMap writeChar ++ ['"']) ++
        ([':'] ++ (member.2.text.toList ++ [closing]))) := by
    simp [memberText, writeMember, writeString]
  have quote : Reader.takeAll { stack := .members read :: outer, expected := .key } ['"'] =
      some { stack := .members read :: outer, expected := .text true [] } := rfl
  have ended : endText (.members read :: outer) true (pieces member.1).reverse =
      some { stack := .member read (pieces member.1) :: outer, expected := .colon } := by
    rw [← List.reverse_reverse (pieces member.1)]
    simp [endText]
  have colon : Reader.takeAll
      { stack := .member read (pieces member.1) :: outer, expected := .colon } [':'] =
        some { stack := .member read (pieces member.1) :: outer, expected := .value } := rfl
  rw [text, takeAll_append, quote, Option.bind_some, takeAll_append, takeAll_behindQuote, ended,
    Option.bind_some, takeAll_append, colon, Option.bind_some,
    member.2.spells.inside _ closing closes]
  rfl

theorem takeAll_members (outer : List Frame) (read : List (List Piece × Document))
    (first : String × Spelling) (rest : List (String × Spelling)) :
    Reader.takeAll { stack := .members read :: outer, expected := .key }
        ((",".intercalate ((first :: rest).map memberText)).toList ++ ['\x7d']) =
      supply outer (.object (read.reverse ++ (first :: rest).map memberDocument)) := by
  induction rest generalizing read first with
  | nil =>
      have closed : (behindMembers outer (memberDocument first :: read)).take '\x7d' =
          supply outer (.object (memberDocument first :: read).reverse) := rfl
      rw [List.map_singleton, String.intercalate_singleton,
        takeAll_member _ _ _ (by decide), closed]
      simp
  | cons second others induction =>
      have goesOn : (behindMembers outer (memberDocument first :: read)).take ',' =
          some { stack := .members (memberDocument first :: read) :: outer, expected := .key } :=
        rfl
      have parts :
          (",".intercalate ((first :: second :: others).map memberText)).toList ++ ['\x7d'] =
            ((memberText first).toList ++ [',']) ++
              ((",".intercalate ((second :: others).map memberText)).toList ++ ['\x7d']) :=
        toList_intercalate_cons _ _ _ _
      rw [parts, takeAll_append, takeAll_member _ _ _ (by decide), goesOn, Option.bind_some,
        induction]
      simp

theorem takeAll_firstKey (stack : List Frame) (first : String × Spelling) (rest : List Char) :
    Reader.takeAll { stack, expected := .firstKey } ((memberText first).toList ++ rest) =
      Reader.takeAll { stack, expected := .key } ((memberText first).toList ++ rest) := by
  have quote : ∃ others, (memberText first).toList = '"' :: others := by
    simp [memberText, writeMember, writeString]
  rcases quote with ⟨others, same⟩
  rw [same, List.cons_append, takeAll_cons, takeAll_cons]
  rfl

theorem spells_object (members : List (String × Spelling)) :
    Spells (enclosed "\x7b" "\x7d" (members.map memberText)).toList
      (.object (members.map memberDocument)) := by
  have parts := toList_enclosed '\x7b' '\x7d' (members.map memberText)
  apply spells_of_supplies
  · exact ⟨'\x7b', _, parts, by decide, by decide⟩
  intro stack
  have opened : take { stack, expected := .value } '\x7b' =
      some { stack := .members [] :: stack, expected := .firstKey } := rfl
  refine (congrArg _ parts).trans ?_
  rw [takeAll_cons, opened, Option.bind_some]
  cases members with
  | nil =>
      have empty :
          (",".intercalate (([] : List (String × Spelling)).map memberText)).toList = [] := by
        simp
      rw [empty, List.nil_append, takeAll_singleton]
      rfl
  | cons first rest =>
      rcases exists_toList_intercalate (memberText first) (rest.map memberText) ['\x7d'] with
        ⟨others, same⟩
      have members := takeAll_members stack [] first rest
      rw [List.map_cons, same] at members ⊢
      rw [takeAll_firstKey, members]
      rfl

def object (members : List (String × Spelling)) : Spelling where
  text := enclosed "\x7b" "\x7d" (members.map memberText)
  document := .object (members.map memberDocument)
  spells := spells_object members

/-! ## Meanings -/

theorem text?_ofText (text : String) : (ofText text).document.text? = some text :=
  text?_pieces text

theorem int64?_ofInt {value : Int} (least : -(Word.half64 : Int) ≤ value)
    (greatest : value < Word.half64) : (ofInt value).document.int64? = some value := by
  have number := Numeral.number?_ofInt least (by simp only [Word.half64, Word.size64] at *; omega)
  simp only [ofInt, Document.int64?, number, greatest, if_true]

theorem list?_array {Meaning : Type} {meaning? : Document → Option Meaning} {items : List Meaning}
    {spelling : Meaning → Spelling}
    (read : ∀ item ∈ items, meaning? (spelling item).document = some item) :
    (array (items.map spelling)).document.list? meaning? = some items := by
  change ((items.map spelling).map document).mapM meaning? = some items
  induction items with
  | nil => rfl
  | cons first rest induction =>
      rcases List.forall_mem_cons.mp read with ⟨isFirst, others⟩
      simp only [List.map_cons, List.mapM_cons, isFirst, induction others, Option.bind_eq_bind,
        Option.bind_some]
      rfl

/-- Whether all of a document has a value, with at most `room` containers that hold one another. -/
def HasValue (room : Nat) (spelling : Spelling) : Prop :=
  (Json.ofDocument? room spelling.document).isSome = true

theorem hasValue_ofText (room : Nat) (text : String) : (ofText text).HasValue room := by
  change ((Piece.text? (pieces text)).map Json.string).isSome = true
  rw [text?_pieces]
  rfl

theorem hasValue_ofInt (room : Nat) {value : Int} (least : -(Word.half64 : Int) ≤ value)
    (greatest : value < Word.size64) : (ofInt value).HasValue room := by
  change ((Numeral.ofInt value).number?.map Json.number).isSome = true
  rw [Numeral.number?_ofInt least greatest]
  rfl

theorem hasValue_array {room : Nat} {items : List Spelling}
    (haveValues : ∀ item ∈ items, item.HasValue room) : (array items).HasValue (room + 1) := by
  have behind : ∀ read, (Json.ofItems? room read (items.map document)).isSome = true := by
    induction items with
    | nil =>
        intro read
        rfl
    | cons first rest induction =>
        intro read
        rcases List.forall_mem_cons.mp haveValues with ⟨hasFirst, others⟩
        rcases Option.isSome_iff_exists.mp hasFirst with ⟨value, isFirst⟩
        simp only [List.map_cons, Json.ofItems?, isFirst]
        exact induction others _
  change ((Json.ofItems? room [] (items.map document)).map Json.array).isSome = true
  rw [Option.isSome_map]
  exact behind []

theorem hasValue_object {room : Nat} {members : List (String × Spelling)}
    (haveValues : ∀ member ∈ members, member.2.HasValue room) :
    (object members).HasValue (room + 1) := by
  have behind : ∀ held,
      (Json.membersOf? room held (members.map memberDocument)).isSome = true := by
    induction members with
    | nil =>
        intro held
        rfl
    | cons first rest induction =>
        intro held
        rcases List.forall_mem_cons.mp haveValues with ⟨hasFirst, others⟩
        rcases Option.isSome_iff_exists.mp hasFirst with ⟨value, isFirst⟩
        simp only [List.map_cons, memberDocument, Json.membersOf?, text?_pieces, isFirst]
        exact induction others _
  change ((Json.membersOf? room [] (members.map memberDocument)).map Json.object).isSome = true
  rw [Option.isSome_map]
  exact behind []

end Spelling

/-! ## Fields -/

open Spelling (memberDocument)

def Spelling.named? (name : String) (members : List (String × Spelling)) : Option Spelling :=
  (members.find? fun member => member.1 == name).map (·.2)

theorem memberNamed?_memberDocument (name : String) (members : List (String × Spelling)) :
    memberNamed? name (members.map memberDocument) =
      (Spelling.named? name members).map (·.document) := by
  induction members with
  | nil => rfl
  | cons first rest induction =>
      rw [List.map_cons]
      change memberNamed? name ((pieces first.1, first.2.document) :: _) = _
      rw [Fields.memberNamed?_cons (text?_pieces first.1), induction]
      by_cases same : first.1 = name
      · simp [Spelling.named?, same]
      · simp [Spelling.named?, same]

theorem isSome_ofMembers?_memberDocument (names : List String) {found : Fields}
    {members : List (String × Spelling)} (differ : (members.map (·.1)).Nodup)
    (fresh : ∀ member ∈ members, found.get? member.1 = none) :
    (Fields.ofMembers? names false found (members.map memberDocument)).isSome = true := by
  induction members generalizing found with
  | nil => rfl
  | cons first rest induction =>
      rw [List.map_cons, List.nodup_cons] at differ
      rcases differ with ⟨first_notMem, differ⟩
      rcases List.forall_mem_cons.mp fresh with ⟨firstFresh, restFresh⟩
      simp only [List.map_cons, memberDocument, Fields.ofMembers?, text?_pieces, firstFresh,
        Option.isSome_none, Bool.false_eq_true, if_false]
      split
      · apply induction differ
        intro member isMember
        have other : first.1 ≠ member.1 := by
          intro same
          apply first_notMem
          rw [same]
          exact List.mem_map_of_mem isMember
        rw [Fields.get?_cons_of_ne other]
        exact restFresh member isMember
      · exact induction differ restFresh

theorem fields_object (names : List String) {members : List (String × Spelling)}
    (differ : (members.map (·.1)).Nodup) :
    ∃ fields, Fields.ofMembers? names false [] (members.map memberDocument) = some fields ∧
      ∀ name ∈ names, fields.get? name = (Spelling.named? name members).map (·.document) := by
  have taken := @isSome_ofMembers?_memberDocument names [] members differ (by simp [Fields.get?])
  rcases Option.isSome_iff_exists.mp taken with ⟨fields, read⟩
  refine ⟨fields, read, ?_⟩
  intro name known
  rw [← memberNamed?_memberDocument]
  exact Fields.get?_ofMembers? known read

end TokenAuthority.Json

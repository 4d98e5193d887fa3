import TokenAuthority.Json.Reader
import TokenAuthority.Register

/-!
# JSON values

What a document means when all of it is wanted. The members of an object stand in the order of their
keys, each key once, and every number but zero has one form, so two values mean the same if and only
if they are equal up to the sign of zeros. In particular an integer never agrees with a number with
a fraction or an exponent.
-/

namespace TokenAuthority

inductive Json where
  | null
  | bool (value : Bool)
  | number (value : Json.Number)
  | string (value : String)
  | array (items : List Json)
  | object (members : List (String × Json))
  deriving Repr

namespace Json

/-! ## Equality -/

mutual

private def decideEqual : (left right : Json) → Decidable (left = right)
  | .null, .null => isTrue rfl
  | .bool left, .bool right =>
      if same : left = right then isTrue (by rw [same]) else isFalse (by simp [same])
  | .number left, .number right =>
      if same : left = right then isTrue (by rw [same]) else isFalse (by simp [same])
  | .string left, .string right =>
      if same : left = right then isTrue (by rw [same]) else isFalse (by simp [same])
  | .array left, .array right =>
      match decideEqualItems left right with
      | isTrue same => isTrue (by rw [same])
      | isFalse differ => isFalse (by simp [differ])
  | .object left, .object right =>
      match decideEqualMembers left right with
      | isTrue same => isTrue (by rw [same])
      | isFalse differ => isFalse (by simp [differ])
  | .null, .bool _ | .null, .number _ | .null, .string _ | .null, .array _ | .null, .object _
  | .bool _, .null | .bool _, .number _ | .bool _, .string _ | .bool _, .array _
  | .bool _, .object _ | .number _, .null | .number _, .bool _ | .number _, .string _
  | .number _, .array _ | .number _, .object _ | .string _, .null | .string _, .bool _
  | .string _, .number _ | .string _, .array _ | .string _, .object _ | .array _, .null
  | .array _, .bool _ | .array _, .number _ | .array _, .string _ | .array _, .object _
  | .object _, .null | .object _, .bool _ | .object _, .number _ | .object _, .string _
  | .object _, .array _ => isFalse (by simp)

private def decideEqualItems : (left right : List Json) → Decidable (left = right)
  | [], [] => isTrue rfl
  | [], _ :: _ => isFalse (by simp)
  | _ :: _, [] => isFalse (by simp)
  | left :: lefts, right :: rights =>
      match decideEqual left right with
      | isFalse differ => isFalse (by simp [differ])
      | isTrue same =>
          match decideEqualItems lefts rights with
          | isTrue others => isTrue (by rw [same, others])
          | isFalse differ => isFalse (by simp [differ])

private def decideEqualMembers :
    (left right : List (String × Json)) → Decidable (left = right)
  | [], [] => isTrue rfl
  | [], _ :: _ => isFalse (by simp)
  | _ :: _, [] => isFalse (by simp)
  | (leftKey, left) :: lefts, (rightKey, right) :: rights =>
      if key : leftKey = rightKey then
        match decideEqual left right with
        | isFalse differ => isFalse (by simp [differ])
        | isTrue same =>
            match decideEqualMembers lefts rights with
            | isTrue others => isTrue (by rw [key, same, others])
            | isFalse differ => isFalse (by simp [differ])
      else isFalse (by simp [key])

end

instance : DecidableEq Json := decideEqual

mutual

def unsignedZeros : Json → Json
  | .number (.float value) => .number (.float value.unsignedZero)
  | .array items => .array (unsignedItems items)
  | .object members => .object (unsignedMembers members)
  | value => value

private def unsignedItems : List Json → List Json
  | [] => []
  | item :: rest => unsignedZeros item :: unsignedItems rest

private def unsignedMembers : List (String × Json) → List (String × Json)
  | [] => []
  | (key, value) :: rest => (key, unsignedZeros value) :: unsignedMembers rest

end

theorem unsignedZeros_array (items : List Json) :
    (array items).unsignedZeros = .array (items.map unsignedZeros) := by
  have each : unsignedItems items = items.map unsignedZeros := by
    induction items with
    | nil => rfl
    | cons item rest induction => rw [unsignedItems, induction, List.map_cons]
  rw [unsignedZeros, each]

theorem unsignedZeros_object (members : List (String × Json)) :
    (object members).unsignedZeros =
      .object (members.map fun member => (member.1, member.2.unsignedZeros)) := by
  have each : unsignedMembers members =
      members.map fun member => (member.1, member.2.unsignedZeros) := by
    induction members with
    | nil => rfl
    | cons member rest induction => rw [unsignedMembers, induction, List.map_cons]
  rw [unsignedZeros, each]

/-- Whether two values say the same: the sign of a zero does not matter. -/
def agrees (left right : Json) : Bool :=
  left.unsignedZeros = right.unsignedZeros

def ofMembers (members : List (String × Json)) : Json :=
  .object (members.foldl (fun held member => Entries.set member.1 member.2 held) [])

/-! ## Meaning of a document -/

mutual

/-- The value of a document in which at most `room` containers hold one another. -/
def ofDocument? : (room : Nat) → Document → Option Json
  | _, .null => some .null
  | _, .bool value => some (.bool value)
  | _, .number spelling => spelling.number?.map .number
  | _, .text pieces => (Piece.text? pieces).map .string
  | room, .array items =>
      if room = 0 then none else (ofItems? (room - 1) [] items).map .array
  | room, .object members =>
      if room = 0 then none else (membersOf? (room - 1) [] members).map .object

def ofItems? (room : Nat) (read : List Json) : List Document → Option (List Json)
  | [] => some read.reverse
  | item :: rest =>
      match ofDocument? room item with
      | some value => ofItems? room (value :: read) rest
      | none => none

def membersOf? (room : Nat) (held : List (String × Json)) :
    List (List Piece × Document) → Option (List (String × Json))
  | [] => some held
  | (key, item) :: rest =>
      match Piece.text? key, ofDocument? room item with
      | some key, some value => membersOf? room (Entries.set key value held) rest
      | _, _ => none

end

def maximumNesting : Nat := 127

def read? (glyphs : List Text.Glyph) : Option Json :=
  (Document.read? glyphs).bind (ofDocument? maximumNesting)

def parse? (text : String) : Option Json :=
  read? (Text.Glyph.ofString text)

end Json

end TokenAuthority

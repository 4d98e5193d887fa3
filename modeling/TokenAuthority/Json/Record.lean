import TokenAuthority.Json.Value
import TokenAuthority.Word

/-!
# Records

A record has named fields in a fixed order. It is written as an object, where fields may stand in
any order, each at most once, beside members that mean nothing here; or as an array of the fields in
their order, where the last ones may be missing. What a record makes of a missing field is its own
business.
-/

namespace TokenAuthority.Json

abbrev Fields := List (String × Document)

namespace Fields

def get? (name : String) (fields : Fields) : Option Document :=
  (fields.find? fun field => field.1 == name).map (·.2)

/-- The members that are named, if every key is text and none of the named ones comes twice. With
`strict` no other member may be there. -/
def ofMembers? (names : List String) (strict : Bool) (found : Fields) :
    List (List Piece × Document) → Option Fields
  | [] => some found
  | (key, value) :: rest =>
      match Piece.text? key with
      | none => none
      | some key =>
          if names.contains key then
            if (found.get? key).isSome then none
            else ofMembers? names strict ((key, value) :: found) rest
          else if strict then none
          else ofMembers? names strict found rest

def ofDocument? (names : List String) (strict : Bool) : Document → Option Fields
  | .object members => ofMembers? names strict [] members
  | .array items => if items.length ≤ names.length then some (names.zip items) else none
  | _ => none

def required? {Meaning : Type} (name : String) (meaning? : Document → Option Meaning)
    (fields : Fields) : Option Meaning :=
  (fields.get? name).bind meaning?

def optional? {Meaning : Type} (name : String) (missing : Meaning)
    (meaning? : Document → Option Meaning) (fields : Fields) : Option Meaning :=
  match fields.get? name with
  | none => some missing
  | some value => meaning? value

end Fields

/-! ## Meanings of single documents -/

namespace Document

def text? : Document → Option String
  | .text pieces => Piece.text? pieces
  | _ => none

def bool? : Document → Option Bool
  | .bool value => some value
  | _ => none

def int64? : Document → Option Int
  | .number spelling =>
      match spelling.number? with
      | some (.integer value) => if value < Word.half64 then some value else none
      | _ => none
  | _ => none

def list? {Meaning : Type} (meaning? : Document → Option Meaning) :
    Document → Option (List Meaning)
  | .array items => items.mapM meaning?
  | _ => none

def nullable? {Meaning : Type} (meaning? : Document → Option Meaning) :
    Document → Option (Option Meaning)
  | .null => some none
  | document => (meaning? document).map some

def meaning? {Meaning : Type} (ofDocument? : Document → Option Meaning) (bytes : List UInt8) :
    Option Meaning :=
  (Document.read? (Text.Glyph.decode bytes)).bind ofDocument?

end Document

end TokenAuthority.Json

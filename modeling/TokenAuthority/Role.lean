import TokenAuthority.Json.Value

/-!
# Roles

The roles that rules know. Claims carry roles as texts, of which any number may name no role.
-/

namespace TokenAuthority

inductive Role where
  | admin
  | user
  deriving DecidableEq, Repr

namespace Role

def name : Role → String
  | .admin => "ADMIN"
  | .user => "USER"

def ofName? (name : String) : Option Role :=
  if name = "ADMIN" then some .admin
  else if name = "USER" then some .user
  else none

/-- The role that a document names: its name, or an object with that one member and null in it. -/
def ofDocument? : Json.Document → Option Role
  | .text pieces => (Json.Piece.text? pieces).bind ofName?
  | .object [(key, .null)] => (Json.Piece.text? key).bind ofName?
  | _ => none

end Role

end TokenAuthority

import TokenAuthority.Claims
import TokenAuthority.Uuid

/-!
# Identities

Who makes a request, once a token has proved it. The subject of the claims has to be an id.
-/

namespace TokenAuthority

structure Identity where
  userId : Uuid
  claims : Claims
  deriving DecidableEq, Repr

inductive SubjectFault where
  | empty
  | noId (subject : String)
  deriving DecidableEq, Repr

namespace SubjectFault

def message : SubjectFault → String
  | .empty => "subject is empty"
  | .noId subject => subject ++ ": not a unique id"

end SubjectFault

namespace Identity

def ofClaims (claims : Claims) : Except SubjectFault Identity :=
  if claims.subject.isEmpty then .error .empty
  else
    match Uuid.parse? claims.subject with
    | some userId => .ok { userId, claims }
    | none => .error (.noId claims.subject)

/-! ## As JSON -/

def fieldNames : List String := ["user_id", "claims"]

def idOfDocument? (document : Json.Document) : Option Uuid :=
  document.text?.bind Uuid.parse?

open Json in
def ofDocument? (document : Document) : Option Identity := do
  let fields ← Fields.ofDocument? fieldNames false document
  some {
    userId := ← fields.required? "user_id" idOfDocument?
    claims := ← fields.required? "claims" Claims.ofDocument? }

open Json in
def write (identity : Identity) : String :=
  enclosed "\x7b" "\x7d"
    [writeMember "user_id" (writeString identity.userId.toString),
     writeMember "claims" identity.claims.write]

end Identity

end TokenAuthority

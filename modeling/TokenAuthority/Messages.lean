import TokenAuthority.Failure.Basic
import TokenAuthority.Identity

/-!
# Messages

What callers and the service send each other as JSON, besides claims and identities.
-/

namespace TokenAuthority

structure Inquiry where
  claims : Claims
  userId : Uuid
  rule : String
  deriving DecidableEq, Repr

namespace Inquiry

def fieldNames : List String := ["claims", "user_id", "rule"]

open Json in
def ofDocument? (document : Document) : Option Inquiry := do
  let fields ← Fields.ofDocument? fieldNames false document
  some {
    claims := ← fields.required? "claims" Claims.ofDocument?
    userId := ← fields.required? "user_id" Identity.idOfDocument?
    rule := ← fields.required? "rule" Document.text? }

open Json in
def write (inquiry : Inquiry) : String :=
  enclosed "\x7b" "\x7d"
    [writeMember "claims" inquiry.claims.write,
     writeMember "user_id" (writeString inquiry.userId.toString),
     writeMember "rule" (writeString inquiry.rule)]

end Inquiry

structure Grant where
  token : String
  deriving DecidableEq, Repr

namespace Grant

open Json in
def ofDocument? (document : Document) : Option Grant := do
  let fields ← Fields.ofDocument? ["token"] false document
  some { token := ← fields.required? "token" Document.text? }

open Json in
def write (grant : Grant) : String :=
  enclosed "\x7b" "\x7d" [writeMember "token" (writeString grant.token)]

end Grant

namespace Envelope

open Json in
def ofDocument? (document : Document) : Option Envelope := do
  let fields ← Fields.ofDocument? ["code", "message"] false document
  some {
    code := ← fields.required? "code" Document.text?
    message := ← fields.required? "message" Document.text? }

end Envelope

end TokenAuthority

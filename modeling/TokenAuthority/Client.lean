import TokenAuthority.Http.Exchange
import TokenAuthority.Messages

/-!
# Clients of the service

For those who hold no keys: both checks are left to a service elsewhere. Whatever is not a clear yes
is a no.
-/

namespace TokenAuthority

structure Client where
  /-- Where the service is, without slashes at the end. -/
  base : String
  transport : Http.Transport

namespace Client

def ofAddress (address : String) (transport : Http.Transport) : Client where
  base := String.ofList (address.toList.reverse.dropWhile (· == '/')).reverse
  transport := transport

inductive Refusal where
  | unreachable
  | unauthorized (message : String)
  | unexpected (status : Http.Status) (body : String)
  | undecodable
  deriving DecidableEq, Repr

namespace Refusal

def message : Refusal → String
  | .unreachable => "auth service request failed: no answer"
  | .unauthorized message => message
  | .unexpected status body =>
      "auth service returned " ++ Nat.repr status.code ++ ": " ++ body
  | .undecodable => "decoding auth service response: not an identity"

def failure (refusal : Refusal) : Failure :=
  .classified .unauthenticated refusal.message

end Refusal

/-- The message in a body. A body is text before it is read, so pieces of it that are no text stand
in the message as replacement characters. -/
def message? (body : List UInt8) : Option String := do
  let document ← Json.Document.read? (Text.Glyph.ofString (Text.lossy body))
  let fields ← Json.Fields.ofDocument? ["message"] false document
  fields.required? "message" Json.Document.text?

def messageOf (body : List UInt8) : String :=
  (message? body).getD "unauthorized"

def refusalOf (reply : Http.Reply) : Refusal :=
  if reply.status = .unauthorized then .unauthorized (messageOf reply.body)
  else .unexpected reply.status (Text.lossy reply.body)

/-! ## Authentication -/

def authenticateMessage (client : Client) (header : String) : Http.Message where
  method := "GET"
  url := client.base ++ "/auth/authenticate"
  authorization := some header

def identityOf : Option Http.Reply → Except Refusal Identity
  | none => .error .unreachable
  | some reply =>
      if reply.status = .ok then
        match Json.Document.meaning? Identity.ofDocument? reply.body with
        | some identity => .ok identity
        | none => .error .undecodable
      else .error (refusalOf reply)

def authenticate (client : Client) (sent : List Http.Message) (header : String) :
    Awaited (Except Refusal Identity) :=
  (Http.exchange client.transport sent (client.authenticateMessage header)).map identityOf

/-! ## Authorization -/

def authorizeMessage (client : Client) (inquiry : Inquiry) : Http.Message where
  method := "POST"
  url := client.base ++ "/auth/authorize"
  body := some inquiry.write

def permissionOf : Option Http.Reply → Except Refusal Unit
  | none => .error .unreachable
  | some reply =>
      if reply.status = .noContent ∨ reply.status = .ok then .ok ()
      else .error (refusalOf reply)

def authorize (client : Client) (sent : List Http.Message) (inquiry : Inquiry) :
    Awaited (Except Refusal Unit) :=
  (Http.exchange client.transport sent (client.authorizeMessage inquiry)).map permissionOf

end Client

end TokenAuthority

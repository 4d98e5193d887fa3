import TokenAuthority.Json.Record
import TokenAuthority.Json.Writer
import TokenAuthority.Role

/-!
# Claims

What a token says about its bearer: who it is, who says so, from when to when, and with which roles.
Times are whole seconds since 1970.
-/

namespace TokenAuthority

/-- A time as an integer of 64 bits with sign. -/
abbrev Seconds := Int64

structure Claims where
  subject : String
  issuer : String
  expiry : Seconds
  issuedAt : Seconds
  notBefore : Option Seconds := none
  /-- Names, which need not be names of a `Role`. -/
  roles : List String := []
  deriving DecidableEq, Repr

namespace Claims

def hasRole (claims : Claims) (role : Role) : Bool :=
  claims.roles.any (· == role.name)

/-! ## Calendar

A calendar shows the times between its first and its last second. -/

def firstSecond : Int := -8334601228800

def lastSecond : Int := 8210266876799

def isDated (time : Int) : Bool :=
  firstSecond ≤ time && time ≤ lastSecond

def isShown (time : Int) : Bool :=
  0 ≤ time && time ≤ lastSecond

/-- Claims issued at `now` that expire after `lifetime`; nothing if no clock shows the one or the
calendar does not reach the other. -/
def issue? (now : Seconds) (subject issuer : String) (lifetime : Int) (roles : List Role) :
    Option Claims :=
  let expiry := now.toInt + lifetime
  if isShown now.toInt && isDated expiry then
    some { subject, issuer, expiry := .ofInt expiry, issuedAt := now, roles := roles.map Role.name }
  else none

def expiresAt? (claims : Claims) : Option Seconds :=
  if isDated claims.expiry.toInt then some claims.expiry else none

/-! ## As JSON -/

def fieldNames : List String := ["sub", "iss", "exp", "iat", "nbf", "roles"]

open Json in
def ofFields? (fields : Fields) : Option Claims := do
  let seconds? := fun field => (Document.int64? field).map Int64.ofInt
  some {
    subject := ← fields.required? "sub" Document.text?
    issuer := ← fields.required? "iss" Document.text?
    expiry := ← fields.required? "exp" seconds?
    issuedAt := ← fields.required? "iat" seconds?
    notBefore := ← fields.optional? "nbf" none (Document.nullable? seconds?)
    roles := ← fields.optional? "roles" [] (Document.list? Document.text?) }

def ofDocument? (document : Json.Document) : Option Claims :=
  (Json.Fields.ofDocument? fieldNames false document).bind ofFields?

def parse? (text : String) : Option Claims :=
  (Json.Document.read? (Text.Glyph.ofString text)).bind ofDocument?

open Json in
def write (claims : Claims) : String :=
  let notBefore := match claims.notBefore with
    | some time => [writeMember "nbf" (writeInt time.toInt)]
    | none => []
  enclosed "\x7b" "\x7d"
    ([writeMember "sub" (writeString claims.subject),
      writeMember "iss" (writeString claims.issuer),
      writeMember "exp" (writeInt claims.expiry.toInt),
      writeMember "iat" (writeInt claims.issuedAt.toInt)] ++ notBefore ++
     [writeMember "roles" (enclosed "[" "]" (claims.roles.map writeString))])

end Claims

end TokenAuthority

import TokenAuthority.Keys.Lookup
import TokenAuthority.Policy.PolicySet
import TokenAuthority.Text.Blank
import TokenAuthority.Token.Error

/-!
# The token engine

Issues tokens, tells who presents one, and says what a bearer may do. Nothing that a token says is
believed before the authentication policy has accepted it; the order of the steps decides which
failure is reported when there are several.
-/

namespace TokenAuthority.Token

structure Engine where
  keys : Keys.Lookup
  policies : Policy.PolicySet
  issuer : String
  /-- How long a lookup may take, in milliseconds. -/
  keyTimeout : Nat := 2000

/-! ## Bearer headers -/

def bearerScheme : List Char := "Bearer ".toList

/-- The token of an authorization header. The scheme is matched exactly. -/
def bearerToken (header : String) : Except AuthError String :=
  if Text.isBlankText header then .error .missingHeader
  else
    let text := header.toList
    if bearerScheme.isPrefixOf text then
      let token := Text.trimChars (text.drop bearerScheme.length)
      if token.isEmpty then .error .invalidHeader else .ok (String.ofList token)
    else .error .invalidHeader

namespace Engine

/-! ## Issuing -/

def signingKey (armored : String) : Except SigningFault Crypto.Rsa.PrivateKey :=
  match rsaContent armored with
  | .error fault => .error (.armor fault)
  | .ok content =>
      match Crypto.Rsa.PrivateKey.ofBytes? content with
      | some key => if key.isUsable then .ok key else .error .unusableKey
      | none => .error .unusableKey

def issuedParts (keyId : String) (claims : Claims) (key : Crypto.Rsa.PrivateKey) : Parts :=
  let unsigned : Parts := {
    header := Parts.writePart (Header.write keyId)
    payload := Parts.writePart claims.write
    signature := [] }
  let signature := Crypto.Rsa.sign key (Text.encode (String.ofList unsigned.signed))
  { unsigned with signature := Text.Base64.urlSafe.encode signature }

def tokenWith (keyId : String) (claims : Claims) (key : Crypto.Rsa.PrivateKey) : String :=
  String.ofList (issuedParts keyId claims key).toToken

def issue (engine : Engine) (keyId : String) (claims : Claims) :
    Awaited (Except AuthError String) :=
  ((engine.keys.privateKey keyId).within engine.keyTimeout).map fun found =>
    match found with
    | none => .error .timeout
    | some (.error fault) => .error (.signing (.key fault))
    | some (.ok armored) =>
        match signingKey armored with
        | .error fault => .error (.signing fault)
        | .ok key => .ok (tokenWith keyId claims key)

/-! ## Authentication -/

def authenticateRule : String := "authenticate"

structure Presented where
  token : String
  keyId : String
  claims : Claims
  deriving DecidableEq, Repr

/-- What an authorization header presents. The id of the key is looked at before the claims. -/
def presented (header : String) : Except AuthError Presented := do
  let token ← bearerToken header
  let parts ← match Parts.ofToken? token.toList with
    | some parts => .ok parts
    | none => .error (.malformedToken .parts)
  let tokenHeader ← parts.readHeader.mapError .malformedToken
  let keyId ← match tokenHeader.keyId with
    | some keyId => if keyId.isEmpty then .error .missingKeyId else .ok keyId
    | none => .error .missingKeyId
  let claims ← parts.readClaims.mapError .malformedToken
  return { token, keyId, claims }

def authenticationInput (token key issuer : String) : Json :=
  Json.ofMembers [("token", .string token), ("key", .string key), ("issuer", .string issuer)]

def accept (engine : Engine) (now : Seconds) (presented : Presented) (key : String) :
    Except AuthError Claims :=
  match engine.policies.authentication.evaluate (verifies? now) authenticateRule
      (authenticationInput presented.token key engine.issuer) with
  | .error fault => .error (.policy fault)
  | .ok false => .error .verificationFailed
  | .ok true =>
      if presented.claims.subject.isEmpty then .error (.invalidSubject .empty)
      else .ok presented.claims

def authenticate (engine : Engine) (now : Seconds) (header : String) :
    Awaited (Except AuthError Claims) :=
  match presented header with
  | .error fault => .now (.error fault)
  | .ok presented =>
      ((engine.keys.publicKey presented.keyId).within engine.keyTimeout).map fun found =>
        match found with
        | none => .error .timeout
        | some (.error fault) => .error (.keyLookup fault)
        | some (.ok key) => engine.accept now presented key

/-! ## Authorization -/

def authorizationInput (claims : Claims) (target : Uuid) (rule : String) : Json :=
  Json.ofMembers
    [("roles", .array (claims.roles.map .string)), ("subject", .string claims.subject),
     ("user_id", .string target.toString), ("rule", .string rule)]

/-- Whether a bearer of claims may act on a target under a rule. A bearer without roles may do
nothing. -/
def authorize (engine : Engine) (now : Seconds) (claims : Claims) (target : Uuid) (rule : String) :
    Except AuthError Unit :=
  if claims.roles.isEmpty then .error (.unauthorized claims.roles rule)
  else
    match engine.policies.authorization.evaluate (verifies? now) rule
        (authorizationInput claims target rule) with
    | .error fault => .error (.policy fault)
    | .ok false => .error (.unauthorized claims.roles rule)
    | .ok true => .ok ()

end Engine

end TokenAuthority.Token

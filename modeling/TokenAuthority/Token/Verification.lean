import TokenAuthority.Crypto.Armor
import TokenAuthority.Crypto.Rsa
import TokenAuthority.Token.Parts
import TokenAuthority.Word

/-!
# Verification

Whether a token is good: signed by an RSA key over exactly its own text, issued by a certain issuer,
about somebody, and valid now. The payload is read a second time for this, more strictly in some
respects and less in others than `Claims` reads it.
-/

namespace TokenAuthority.Token

open Json (Document Fields)

/-! ## Keys -/

inductive ArmorFault where
  | notRsa
  | noContent
  deriving DecidableEq, Repr

namespace ArmorFault

def message : ArmorFault → String
  | .notRsa => "InvalidKeyFormat"
  | .noContent => "InvalidEcdsaKey"

end ArmorFault

/-- The object ids that say which sort a key is: of elliptic curves, RSA and twisted curves. -/
def sorts : List (List Nat) :=
  [[1, 2, 840, 10045, 2, 1], Crypto.Rsa.objectId, [1, 3, 101, 112]]

/-- The RSA key of the first armoured block of a text. Labels that name RSA stand for the key
itself; the others for a container, whose first object id of a known sort has to be that of RSA, and
whose first string of bits or bytes is the key. -/
def rsaContent (armored : String) : Except ArmorFault (List UInt8) :=
  match Crypto.Armor.readLenient? armored with
  | none => .error .notRsa
  | some armor =>
      match Crypto.Der.blocks? armor.content with
      | none => .error .notRsa
      | some blocks =>
          if armor.label = "RSA PRIVATE KEY" ∨ armor.label = "RSA PUBLIC KEY" then
            .ok armor.content
          else if armor.label = "PRIVATE KEY" ∨ armor.label = "PUBLIC KEY" ∨
              armor.label = "CERTIFICATE" then
            if Crypto.Der.firstObjectId? sorts blocks = some Crypto.Rsa.objectId then
              match Crypto.Der.firstContent? blocks with
              | some content => .ok content
              | none => .error .noContent
            else .error .notRsa
          else .error .notRsa

def publicKey? (armored : String) : Option Crypto.Rsa.PublicKey :=
  match rsaContent armored with
  | .ok content => Crypto.Rsa.PublicKey.ofEither? content
  | .error _ => none

/-! ## Payloads -/

/-- How many seconds clocks may differ. -/
def leeway : Nat := 60

/-- A time as a token states it: not negative, below `2 ^ 64`, to the nearest second. -/
def instant? : Document → Option Nat
  | .number spelling =>
      match spelling.number? with
      | some (.integer value) => if value < 0 then none else some value.toNat
      | some (.float value) =>
          if value.unsignedZero.negative ∨ Word.size64 * value.denominator ≤ value.numerator then none
          else some ((2 * value.numerator + value.denominator) / (2 * value.denominator))
      | none => none
  | _ => none

structure Assertion where
  expiry : Nat
  /-- From when on the assertion holds, if it says; nothing inside if that is no time. -/
  notBefore : Option (Option Nat)
  subject : String
  /-- The issuers, of which a payload may name several. -/
  issuers : List String
  deriving DecidableEq, Repr

namespace Assertion

def issuers? (document : Document) : Option (List String) :=
  match document.text? with
  | some issuer => some [issuer]
  | none => document.list? Document.text?

def fieldNames : List String := ["exp", "nbf", "sub", "iss", "aud"]

def ofFields? (fields : Fields) : Option Assertion := do
  some {
    expiry := ← fields.required? "exp" instant?
    notBefore := ← fields.optional? "nbf" none fun time => some (some (instant? time))
    subject := ← fields.required? "sub" Document.text?
    issuers := ← fields.required? "iss" issuers? }

/-- The assertion that a payload makes. As a list it has all of the fields. -/
def ofDocument? (document : Document) : Option Assertion := do
  let fields ← Fields.ofDocument? fieldNames false document
  match document with
  | .array items => if items.length < fieldNames.length then none else ofFields? fields
  | _ => ofFields? fields

/-- Whether the assertion comes from an issuer and holds at a time. There has to be a time that lies
the leeway back. -/
def holds? (assertion : Assertion) (now : Int) (issuer : String) : Option Bool :=
  if now < leeway then none
  else
    let isDue := fun (time : Option Nat) => time.any fun (time : Nat) => (time : Int) ≤ now + leeway
    some (assertion.issuers.contains issuer && now - leeway ≤ assertion.expiry &&
      assertion.notBefore.all isDue)

end Assertion

/-! ## Tokens -/

def isSigned (parts : Parts) (key : Crypto.Rsa.PublicKey) : Bool :=
  match parts.readHeader, Text.Base64.urlSafe.decode? parts.signature with
  | .ok header, some signature =>
      header.algorithm == .rs256 && Crypto.Rsa.verify key (Text.encode (String.ofList parts.signed))
        signature
  | _, _ => false

def assertion? (parts : Parts) : Option Assertion :=
  match Parts.document parts.payload with
  | .ok document =>
      if (Json.ofDocument? Json.maximumNesting document).isSome then Assertion.ofDocument? document
      else none
  | .error _ => none

def signedAssertion? (token armored : String) : Option Assertion :=
  match publicKey? armored, Parts.ofToken? token.toList with
  | some key, some parts => if isSigned parts key then assertion? parts else none
  | _, _ => none

/-- Whether a token is good at a time, under an armoured key and an issuer. Nothing is told of a
signed assertion so early that the leeway does not fit before it. -/
def verifies? (now : Seconds) (token armored issuer : String) : Option Bool :=
  match signedAssertion? token armored with
  | some assertion => assertion.holds? now.toInt issuer
  | none => some false

theorem verifies?_eq_none_iff {now : Seconds} {token armored issuer : String} :
    verifies? now token armored issuer = none ↔
      now.toInt < leeway ∧ (signedAssertion? token armored).isSome = true := by
  unfold verifies?
  cases signedAssertion? token armored with
  | none => simp
  | some assertion => simp [Assertion.holds?]

end TokenAuthority.Token

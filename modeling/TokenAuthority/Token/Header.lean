import TokenAuthority.Json.Writer
import TokenAuthority.Token.KeyHint

/-!
# Token headers

The header of a token says how it is signed and with which key. It is an object; members with a
meaning must have the right shape, each at most once, and all others must be texts.
-/

namespace TokenAuthority.Token

inductive Algorithm where
  | hs256 | hs384 | hs512 | es256 | es384 | rs256 | rs384 | rs512 | ps256 | ps384 | ps512 | edDsa
  deriving DecidableEq, Repr

namespace Algorithm

def name : Algorithm → String
  | .hs256 => "HS256"
  | .hs384 => "HS384"
  | .hs512 => "HS512"
  | .es256 => "ES256"
  | .es384 => "ES384"
  | .rs256 => "RS256"
  | .rs384 => "RS384"
  | .rs512 => "RS512"
  | .ps256 => "PS256"
  | .ps384 => "PS384"
  | .ps512 => "PS512"
  | .edDsa => "EdDSA"

def all : List Algorithm :=
  [.hs256, .hs384, .hs512, .es256, .es384, .rs256, .rs384, .rs512, .ps256, .ps384, .ps512, .edDsa]

def ofName? (name : String) : Option Algorithm :=
  all.find? fun algorithm => algorithm.name == name

end Algorithm

structure Header where
  algorithm : Algorithm
  keyId : Option String
  deriving DecidableEq, Repr

namespace Header

open Json (Document Fields)

def textNames : List String :=
  ["typ", "cty", "jku", "kid", "x5u", "x5t", "x5t#S256", "enc", "zip", "url", "nonce"]

def listNames : List String := ["x5c", "crit"]

def names : List String := "alg" :: "jwk" :: textNames ++ listNames

def isText (document : Document) : Bool :=
  document.text?.isSome

def isExtra (member : List Json.Piece × Document) : Bool :=
  match Json.Piece.text? member.1 with
  | some key => names.contains key || isText member.2
  | none => false

def ofDocument? : Document → Option Header
  | .object members => do
      let fields ← Fields.ofMembers? names false [] members
      let algorithm ← fields.required? "alg" fun field => (wordOf? field).bind Algorithm.ofName?
      let keyId ← fields.optional? "kid" none (Document.nullable? Document.text?)
      let fitsText := fun name => (fields.optional? name none
        (Document.nullable? Document.text?)).isSome
      let fitsList := fun name => (fields.optional? name none
        (Document.nullable? (Document.list? Document.text?))).isSome
      let fitsHint := match fields.get? "jwk" with
        | none | some .null => true
        | some hint => KeyHint.isWellFormed (Json.maximumNesting - 1) hint
      if textNames.all fitsText && listNames.all fitsList && fitsHint && members.all isExtra then
        some { algorithm, keyId }
      else none
  | _ => none

open Json in
def write (keyId : String) : String :=
  enclosed "\x7b" "\x7d"
    [writeMember "typ" (writeString "JWT"), writeMember "alg" (writeString Algorithm.rs256.name),
     writeMember "kid" (writeString keyId)]

end Header

end TokenAuthority.Token

import TokenAuthority.Claims
import TokenAuthority.Text.Base64
import TokenAuthority.Token.Header

/-!
# Parts of a token

A token is a header, a payload and a signature, each in base64 and with a dot between each two. The
signature signs the text in front of the last dot. A token is cut at its last two dots, so that a
header with a dot in it is cut off whole and then refused as base64.
-/

namespace TokenAuthority.Token

inductive TokenFault where
  | parts
  | base64
  | json
  deriving DecidableEq, Repr

namespace TokenFault

def message : TokenFault → String
  | .parts => "InvalidToken"
  | .base64 => "Base64 error: not url-safe base64"
  | .json => "JSON error: unexpected document"

end TokenFault

structure Parts where
  header : List Char
  payload : List Char
  signature : List Char
  deriving DecidableEq, Repr

namespace Parts

def cutLast? (text : List Char) : Option (List Char × List Char) :=
  match text.reverse.span (· != '.') with
  | (_, []) => none
  | (behind, _ :: before) => some (before.reverse, behind.reverse)

def ofToken? (token : List Char) : Option Parts := do
  let (signed, signature) ← cutLast? token
  let (header, payload) ← cutLast? signed
  some { header, payload, signature }

def signed (parts : Parts) : List Char :=
  parts.header ++ '.' :: parts.payload

def toToken (parts : Parts) : List Char :=
  parts.signed ++ '.' :: parts.signature

/-! ## Reading a part -/

def document (part : List Char) : Except TokenFault Json.Document :=
  match Text.Base64.urlSafe.decode? part with
  | none => .error .base64
  | some bytes =>
      match Json.Document.read? (Text.Glyph.decode bytes) with
      | none => .error .json
      | some document => .ok document

def readHeader (parts : Parts) : Except TokenFault Header := do
  match Header.ofDocument? (← document parts.header) with
  | some header => .ok header
  | none => .error .json

def readClaims (parts : Parts) : Except TokenFault Claims := do
  match Claims.ofDocument? (← document parts.payload) with
  | some claims => .ok claims
  | none => .error .json

/-! ## Writing a part -/

def writePart (text : String) : List Char :=
  Text.Base64.urlSafe.encode (Text.encode text)

end Parts

end TokenAuthority.Token

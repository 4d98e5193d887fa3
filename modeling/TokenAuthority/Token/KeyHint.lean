import TokenAuthority.Json.Record

/-!
# Key hints

The header of a token may carry a key. Nothing is made of it, but it has to be a key: a record of
one of four kinds, each with parameters of its own, beside parameters that all kinds have.
-/

namespace TokenAuthority.Token

open Json (Document Fields)

/-- The one word that a document is, written as a text or as an object with a null under it. -/
def wordOf? : Document → Option String
  | .text pieces => Json.Piece.text? pieces
  | .object [(key, .null)] => Json.Piece.text? key
  | _ => none

namespace KeyHint

/-- Like `wordOf?`, but what is under the word may also be an empty object. -/
def emptyWordOf? : Document → Option String
  | .object [(key, .object [])] => Json.Piece.text? key
  | document => wordOf? document

private def texts? (document : Document) : Option (List String) :=
  document.list? Document.text?

private def shared : List (String × (Document → Bool)) :=
  let text := fun document => (Document.nullable? Document.text? document).isSome
  let texts := fun document => (Document.nullable? texts? document).isSome
  let word := fun document => (Document.nullable? emptyWordOf? document).isSome
  [("use", text), ("key_ops", texts), ("alg", word), ("kid", text), ("x5u", text), ("x5c", texts),
   ("x5t", text), ("x5t#S256", text)]

private def curves : List String := ["P-256", "P-384", "P-521", "Ed25519"]

/-- The kinds, each with its name, whether it names a curve, and its further parameters. -/
private def kinds : List (String × Bool × List String) :=
  [("EC", true, ["x", "y"]), ("RSA", false, ["n", "e"]), ("oct", false, ["k"]),
   ("OKP", true, ["x"])]

private def isOfKind (kind : String × Bool × List String)
    (members : List (List Json.Piece × Document)) : Bool :=
  let (name, hasCurve, parameters) := kind
  let names := "kty" :: (if hasCurve then ["crv"] else []) ++ parameters
  match Fields.ofMembers? names false [] members with
  | none => false
  | some fields =>
      fields.required? "kty" wordOf? == some name &&
        (!hasCurve || (fields.required? "crv" wordOf?).any curves.contains) &&
        parameters.all fun parameter => (fields.required? parameter Document.text?).isSome

def isWellFormed (room : Nat) : Document → Bool
  | .object members =>
      (Json.ofDocument? room (.object members)).isSome &&
        (match Fields.ofMembers? (shared.map (·.1)) false [] members with
          | none => false
          | some fields =>
              shared.all fun parameter => (fields.get? parameter.1).all parameter.2) &&
        kinds.any (isOfKind · members)
  | _ => false

end KeyHint

end TokenAuthority.Token

import TokenAuthority.Json.Record
import TokenAuthority.Policy.Module

/-!
# Reading policy modules

A module is written as a JSON record `package`, `let`, `rules`; an expression or an operand as an
object whose one member says of which sort it is. Containers hold one another at most
`Json.maximumNesting` deep, except inside members that mean nothing here.
-/

namespace TokenAuthority.Policy

open Json (Document Fields Piece)

private def soleMember? : Document → Option (String × Document)
  | .object [(key, content)] => (Piece.text? key).map (·, content)
  | _ => none

def Operand.ofDocument? (room : Nat) (document : Document) : Option Operand :=
  if room = 0 then none
  else
    match soleMember? document with
    | some ("input", content) => content.text?.map .input
    | some ("var", content) => content.text?.map .binding
    | some ("value", content) => (Json.ofDocument? (room - 1) content).map .literal
    | _ => none

namespace Predicate

private def fieldsOf? (room : Nat) (names : List String) (document : Document) : Option Fields :=
  if room = 0 then none else Fields.ofDocument? names false document

private def pairOf? (room : Nat) : Document → Option (Operand × Operand)
  | .array [left, right] =>
      if room = 0 then none
      else do
        some (← Operand.ofDocument? (room - 1) left, ← Operand.ofDocument? (room - 1) right)
  | _ => none

def ofMember? (room : Nat) (sort : String) (content : Document) : Option Predicate :=
  let operand? := Operand.ofDocument? (room - 1)
  match sort with
  | "eq" => (pairOf? room content).map fun pair => .equal pair.1 pair.2
  | "non_empty" => (Operand.ofDocument? room content).map .nonEmpty
  | "contains" => do
      let fields ← fieldsOf? room ["set", "value"] content
      some (.contains (← fields.required? "set" operand?) (← fields.required? "value" operand?))
  | "intersects" => do
      let fields ← fieldsOf? room ["set", "values"] content
      some (.intersects (← fields.required? "set" operand?) (← fields.required? "values" operand?))
  | "jwt_verify" => do
      let fields ← fieldsOf? room ["token", "key", "issuer"] content
      some (.verifies (← fields.required? "token" operand?) (← fields.required? "key" operand?)
        (← fields.required? "issuer" operand?))
  | _ => none

end Predicate

namespace Expression

mutual

def ofDocument? : (room : Nat) → Document → Option Expression
  | room + 1, .object [(key, content)] =>
      match Piece.text? key with
      | none => none
      | some "const" => content.bool?.map .constant
      | some "all" => (listOf? room content).map .all
      | some "any" => (listOf? room content).map .any
      | some "not" => (ofDocument? room content).map .not
      | some "rule" => content.text?.map .rule
      | some sort => (Predicate.ofMember? room sort content).map .test
  | _, _ => none

private def listOf? : (room : Nat) → Document → Option (List Expression)
  | room + 1, .array items => itemsOf? room items
  | _, _ => none

private def itemsOf? (room : Nat) : List Document → Option (List Expression)
  | [] => some []
  | item :: rest => do
      let first ← ofDocument? room item
      let others ← itemsOf? room rest
      some (first :: others)

end

end Expression

namespace Module

/-- The things under the keys of an object; the last one of a key counts. -/
private def registerOf? {Thing : Type} (room : Nat) (thing? : Nat → Document → Option Thing) :
    Document → Option (Register Thing)
  | .object members =>
      if room = 0 then none
      else do
        let things ← members.mapM fun member => do
          some (← Piece.text? member.1, ← thing? (room - 1) member.2)
        some (Register.ofList things)
  | _ => none

def ofDocument? (document : Document) : Option Module := do
  let room := Json.maximumNesting - 1
  let fields ← Fields.ofDocument? ["package", "let", "rules"] true document
  some {
    package := ← fields.required? "package" Document.text?
    bindings := ← fields.optional? "let" Register.empty (registerOf? room Json.ofDocument?)
    rules := ← fields.required? "rules" (registerOf? room Expression.ofDocument?) }

def spelled? (source : String) : Option Module :=
  (Document.read? (Text.Glyph.ofString source)).bind ofDocument?

def parse (source : String) : Except LoadError Module :=
  match spelled? source with
  | some policy => policy.checked
  | none => .error .malformed

end Module

end TokenAuthority.Policy

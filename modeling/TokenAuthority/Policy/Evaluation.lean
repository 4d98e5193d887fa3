import TokenAuthority.Policy.Module
import TokenAuthority.Text.Decimal
import TokenAuthority.Text.Segments
import TokenAuthority.Word

/-!
# Evaluation

What a rule says about an input. Connectives work from left to right and stop as soon as the answer
is known. A predicate is false if an operand is undefined or has the wrong shape; whether a token is
good may be past telling, and then nothing is told. Rules may refer to
one another without end, so at most `maximumDepth` references may be open at a time; how many stand
side by side does not matter.

Evaluation reads a depth and an expression: `Expression.meaning` is by recursion on the expression,
given what rules mean, and `Scene.rule` by recursion on the references that may still be opened.
-/

namespace TokenAuthority.Policy

/-! ## Paths -/

/-- What a value holds under one segment of a path: the member of that name, or the element at that
index. -/
def step? (segment : List Char) : Json → Option Json
  | .object members => Entries.get? (String.ofList segment) members
  | .array items => (Text.decimal? Word.size64 segment).bind (items[·]?)
  | _ => none

def walk? : List (List Char) → Json → Option Json
  | [], value => some value
  | segment :: rest, value => (step? segment value).bind (walk? rest)

def lookup? (value : Json) (path : String) : Option Json :=
  if path.isEmpty then some value else walk? (Text.segments '.' path.toList) value

/-! ## Predicates -/

structure Scene where
  policy : Module
  input : Json
  /-- Whether a token is good under a key and an issuer; nothing if that cannot be told. -/
  verifies? : (token key issuer : String) → Option Bool

def isNonEmpty : Json → Bool
  | .null => false
  | .bool value => value
  | .number _ => true
  | .string value => !value.isEmpty
  | .array items => !items.isEmpty
  | .object members => !members.isEmpty

namespace Scene

def resolve? (scene : Scene) : Operand → Option Json
  | .input path => lookup? scene.input path
  | .binding name => scene.policy.bindings.get? name
  | .literal value => some value

/-- Whether a predicate holds. Only one about a token may leave that open. -/
def holds? (scene : Scene) : Predicate → Option Bool
  | .equal left right =>
      match scene.resolve? left, scene.resolve? right with
      | some left, some right => some (left.agrees right)
      | _, _ => some false
  | .nonEmpty operand => some ((scene.resolve? operand).any isNonEmpty)
  | .contains collection value =>
      match scene.resolve? collection, scene.resolve? value with
      | some (.array items), some value => some (items.any value.agrees)
      | _, _ => some false
  | .intersects collection values =>
      match scene.resolve? collection, scene.resolve? values with
      | some (.array items), some (.array values) =>
          some (values.any fun value => items.any value.agrees)
      | _, _ => some false
  | .verifies token key issuer =>
      match scene.resolve? token, scene.resolve? key, scene.resolve? issuer with
      | some (.string token), some (.string key), some (.string issuer) =>
          scene.verifies? token key issuer
      | _, _, _ => some false

end Scene

/-! ## Expressions -/

inductive Obstacle where
  /-- One reference more than may be open at a time. -/
  | tooDeep
  | unknownRule (name : String)
  /-- Whether a token is good cannot be told. -/
  | noVerdict
  deriving DecidableEq, Repr

namespace Expression

mutual

def meaning (holds? : Predicate → Option Bool) (rule : String → Except Obstacle Bool) :
    Expression → Except Obstacle Bool
  | .constant value => .ok value
  | .all items => allOf holds? rule items
  | .any items => anyOf holds? rule items
  | .not inner => (meaning holds? rule inner).map (!·)
  | .rule name => rule name
  | .test predicate => (holds? predicate).elim (.error .noVerdict) .ok

def allOf (holds? : Predicate → Option Bool) (rule : String → Except Obstacle Bool) :
    List Expression → Except Obstacle Bool
  | [] => .ok true
  | item :: rest =>
      match meaning holds? rule item with
      | .ok true => allOf holds? rule rest
      | other => other

def anyOf (holds? : Predicate → Option Bool) (rule : String → Except Obstacle Bool) :
    List Expression → Except Obstacle Bool
  | [] => .ok false
  | item :: rest =>
      match meaning holds? rule item with
      | .ok false => anyOf holds? rule rest
      | other => other

end

end Expression

namespace Scene

/-- What a rule says when `depth` references may still be opened, the one to this rule included. -/
def rule (scene : Scene) : (depth : Nat) → (name : String) → Except Obstacle Bool
  | 0, _ => .error .tooDeep
  | depth + 1, name =>
      match scene.policy.rules.get? name with
      | none => .error (.unknownRule name)
      | some body => body.meaning scene.holds? (scene.rule depth)

def value (scene : Scene) (depth : Nat) (expression : Expression) : Except Obstacle Bool :=
  expression.meaning scene.holds? (scene.rule depth)

end Scene

/-! ## Modules -/

def maximumDepth : Nat := 32

inductive EvaluationError where
  | unknownRule (package name : String)
  | tooDeep (root : String) (depth : Nat)
  | noVerdict
  deriving DecidableEq, Repr

namespace EvaluationError

def message : EvaluationError → String
  | .unknownRule package name => "rule `" ++ name ++ "` is not defined in " ++ package
  | .tooDeep root depth =>
      "rule `" ++ root ++ "` exceeded the maximum rule depth of " ++ Nat.repr depth
  | .noVerdict => "attempt to subtract with overflow"

end EvaluationError

def Obstacle.report (package root : String) : Obstacle → EvaluationError
  | .tooDeep => .tooDeep root maximumDepth
  | .unknownRule name => .unknownRule package name
  | .noVerdict => .noVerdict

def Module.evaluate (policy : Module) (verifies? : (token key issuer : String) → Option Bool)
    (root : String) (input : Json) : Except EvaluationError Bool :=
  match policy.rules.get? root with
  | none => .error (.unknownRule policy.package root)
  | some body =>
      (Scene.value { policy, input, verifies? } maximumDepth body).mapError
        (Obstacle.report policy.package root)

end TokenAuthority.Policy

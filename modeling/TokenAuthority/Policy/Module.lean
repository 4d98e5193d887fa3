import TokenAuthority.Json.Value

/-!
# Policy modules

A policy module names boolean rules. The body of a rule is an expression over an input, built from
predicates, connectives and references to rules of the same module. The operands of a predicate come
from the input, from the bindings of the module, or are written out.

A module is sound if every reference in it, reachable or not, names something that the module
defines. `Module.checked` accepts exactly the sound modules and reports a loose reference of the
others.
-/

namespace TokenAuthority.Policy

inductive Operand where
  /-- A dotted path into the input. -/
  | input (path : String)
  | binding (name : String)
  | literal (value : Json)
  deriving DecidableEq

inductive Predicate where
  | equal (left right : Operand)
  | nonEmpty (operand : Operand)
  | contains (collection value : Operand)
  | intersects (collection values : Operand)
  /-- Whether a token is signed by a key, issued by an issuer and valid now. -/
  | verifies (token key issuer : Operand)
  deriving DecidableEq

inductive Expression where
  | constant (value : Bool)
  | all (items : List Expression)
  | any (items : List Expression)
  | not (inner : Expression)
  | rule (name : String)
  | test (predicate : Predicate)

structure Module where
  package : String
  bindings : Register Json
  rules : Register Expression

/-! ## References -/

inductive Reference where
  | rule (name : String)
  | binding (name : String)
  deriving DecidableEq, Repr

def Operand.references : Operand → List Reference
  | .binding name => [.binding name]
  | .input _ | .literal _ => []

def Predicate.operands : Predicate → List Operand
  | .equal left right => [left, right]
  | .nonEmpty operand => [operand]
  | .contains collection value => [collection, value]
  | .intersects collection values => [collection, values]
  | .verifies token key issuer => [token, key, issuer]

namespace Expression

def children : Expression → List Expression
  | .all items | .any items => items
  | .not inner => [inner]
  | .constant _ | .rule _ | .test _ => []

/-- The references that an expression makes by itself, not through its children. -/
def ownReferences : Expression → List Reference
  | .rule name => [.rule name]
  | .test predicate => predicate.operands.flatMap Operand.references
  | .constant _ | .all _ | .any _ | .not _ => []

/-- The size of several expressions together, by which a search through them ends. -/
noncomputable def totalSize : List Expression → Nat
  | [] => 0
  | item :: rest => sizeOf item + totalSize rest

theorem totalSize_append (left right : List Expression) :
    totalSize (left ++ right) = totalSize left + totalSize right := by
  induction left with
  | nil => simp [totalSize]
  | cons item rest induction =>
      simp only [List.cons_append, totalSize, induction]
      omega

theorem totalSize_reverse (items : List Expression) : totalSize items.reverse = totalSize items := by
  induction items with
  | nil => rfl
  | cons item rest induction =>
      simp only [List.reverse_cons, totalSize_append, totalSize, induction]
      omega

theorem totalSize_le (items : List Expression) : totalSize items ≤ sizeOf items := by
  induction items with
  | nil => simp [totalSize]
  | cons item rest induction =>
      simp only [totalSize, List.cons.sizeOf_spec]
      omega

theorem totalSize_children_lt (expression : Expression) :
    totalSize expression.children < sizeOf expression := by
  cases expression with
  | all items =>
      have bound := totalSize_le items
      simp only [children, all.sizeOf_spec]
      omega
  | any items =>
      have bound := totalSize_le items
      simp only [children, any.sizeOf_spec]
      omega
  | not inner => simp [children, totalSize]
  | constant value => simp [children, totalSize]
  | rule name =>
      simp only [children, totalSize, rule.sizeOf_spec]
      omega
  | test predicate =>
      simp only [children, totalSize, test.sizeOf_spec]
      omega

end Expression

inductive Predicate.Uses : Predicate → Operand → Prop
  | equalLeft (left right : Operand) : Uses (.equal left right) left
  | equalRight (left right : Operand) : Uses (.equal left right) right
  | nonEmpty (operand : Operand) : Uses (.nonEmpty operand) operand
  | containsCollection (collection value : Operand) : Uses (.contains collection value) collection
  | containsValue (collection value : Operand) : Uses (.contains collection value) value
  | intersectsCollection (collection values : Operand) :
      Uses (.intersects collection values) collection
  | intersectsValues (collection values : Operand) : Uses (.intersects collection values) values
  | verifiesToken (token key issuer : Operand) : Uses (.verifies token key issuer) token
  | verifiesKey (token key issuer : Operand) : Uses (.verifies token key issuer) key
  | verifiesIssuer (token key issuer : Operand) : Uses (.verifies token key issuer) issuer

inductive Expression.Mentions : Expression → Reference → Prop
  | rule (name : String) : Mentions (.rule name) (.rule name)
  | binding {predicate : Predicate} {name : String} (uses : predicate.Uses (.binding name)) :
      Mentions (.test predicate) (.binding name)
  | all {items : List Expression} {item : Expression} {reference : Reference} (member : item ∈ items)
      (mentions : Mentions item reference) : Mentions (.all items) reference
  | any {items : List Expression} {item : Expression} {reference : Reference} (member : item ∈ items)
      (mentions : Mentions item reference) : Mentions (.any items) reference
  | not {inner : Expression} {reference : Reference} (mentions : Mentions inner reference) :
      Mentions (.not inner) reference

theorem Expression.Mentions.all_cons {rest : List Expression} {reference : Reference}
    (mentions : Mentions (.all rest) reference) (item : Expression) :
    Mentions (.all (item :: rest)) reference := by
  cases mentions with
  | all member mentions => exact .all (List.mem_cons_of_mem item member) mentions

theorem Expression.Mentions.any_cons {rest : List Expression} {reference : Reference}
    (mentions : Mentions (.any rest) reference) (item : Expression) :
    Mentions (.any (item :: rest)) reference := by
  cases mentions with
  | any member mentions => exact .any (List.mem_cons_of_mem item member) mentions

namespace Module

def hasRule (policy : Module) (name : String) : Bool :=
  (policy.rules.get? name).isSome

def Mentions (policy : Module) (reference : Reference) : Prop :=
  ∃ entry ∈ policy.rules.entries, entry.2.Mentions reference

def defines (policy : Module) : Reference → Bool
  | .rule name => policy.hasRule name
  | .binding name => (policy.bindings.get? name).isSome

def Sound (policy : Module) : Prop :=
  ∀ reference, policy.Mentions reference → policy.defines reference = true

end Module

/-! ## Checking -/

inductive LoadError where
  | malformed
  | undefined (package : String) (reference : Reference)
  deriving DecidableEq, Repr

namespace LoadError

def message : LoadError → String
  | .malformed => "the text is no policy module"
  | .undefined package (.rule name) =>
      package ++ ": reference to undefined rule `" ++ name ++ "`"
  | .undefined package (.binding name) =>
      package ++ ": reference to undefined binding `" ++ name ++ "`"

end LoadError

namespace Module

/-- The first reference without a definition that is met when expressions are looked at one by one,
each before those behind it. The children of an expression are looked at next, the last one first. -/
def looseReference? (policy : Module) : (waiting : List Expression) → Option Reference
  | [] => none
  | expression :: waiting =>
      match expression.ownReferences.find? fun reference => !policy.defines reference with
      | some reference => some reference
      | none => policy.looseReference? (expression.children.reverse ++ waiting)
  termination_by waiting => Expression.totalSize waiting
  decreasing_by
    have smaller := expression.totalSize_children_lt
    simp only [Expression.totalSize_append, Expression.totalSize_reverse, Expression.totalSize]
    omega

def checked (policy : Module) : Except LoadError Module :=
  match policy.looseReference? (policy.rules.entries.map (·.2)).reverse with
  | some reference => .error (.undefined policy.package reference)
  | none => .ok policy

end Module

end TokenAuthority.Policy

import TokenAuthority.Text.Percent
import TokenAuthority.Text.Segments

/-!
# Path patterns

A pattern says which paths a route is for, segment by segment: a literal stands for itself, a
parameter for the end of a segment, and a rest for everything that remains. Both may have a literal
lead in front of them. A parameter at the end of a path matches something, and so does a rest. Of
several patterns that match a path, the one that is literal for longest counts.
-/

namespace TokenAuthority.Http

namespace Pattern

inductive Part where
  | literal (text : List Char)
  | parameter (name : String) (lead : List Char := [])
  | rest (name : String) (lead : List Char := [])
  deriving DecidableEq, Repr

end Pattern

/-- The segments of a path behind its first slash. -/
structure Pattern where
  parts : List Pattern.Part
  deriving DecidableEq, Repr

namespace Pattern

/-! ## Reading -/

def unescaped : List Char → List (Char × Bool)
  | '\x7b' :: '\x7b' :: rest => ('\x7b', true) :: unescaped rest
  | '\x7d' :: '\x7d' :: rest => ('\x7d', true) :: unescaped rest
  | value :: rest => (value, false) :: unescaped rest
  | [] => []

/-- Where a reader is in a segment. What it has read is latest first. -/
inductive Place where
  | literal (read : List Char)
  | opened (lead : List Char)
  | name (lead read : List Char)
  | closed (part : Part)

/-- The part with a name, in front of which a star marks a rest. -/
def Part.ofName (lead : List Char) : List Char → Part
  | '*' :: name => .rest (String.ofList name) lead
  | name => .parameter (String.ofList name) lead

/-- Reads one character behind the parts `read`, latest first. Nothing but a slash may stand behind
a closing brace, and a rest is the end of the text. -/
def readStep : List Part × Place → Char × Bool → Option (List Part × Place)
  | (read, .literal text), (value, isTwice) =>
      if value = '/' then some (.literal text.reverse :: read, .literal [])
      else if value = '\x7b' ∧ ¬isTwice then some (read, .opened text.reverse)
      else if value = '\x7d' ∧ ¬isTwice then none
      else some (read, .literal (value :: text))
  | (read, .opened lead), (value, _) =>
      if value = '\x7d' then none else some (read, .name lead [value])
  | (read, .name lead name), (value, isTwice) =>
      if value = '\x7d' ∧ ¬isTwice then
        if name = ['*'] then none else some (read, .closed (.ofName lead name.reverse))
      else if value = '*' ∨ value = '/' then none
      else some (read, .name lead (value :: name))
  | (read, .closed (.parameter name lead)), (value, _) =>
      if value = '/' then some (.parameter name lead :: read, .literal []) else none
  | (_, .closed _), _ => none

def readEnd : List Part × Place → Option (List Part)
  | (read, .literal text) => some (.literal text.reverse :: read).reverse
  | (read, .closed part) => some (part :: read).reverse
  | _ => none

def maximumParameters : Nat := 25

def Part.isParameter : Part → Bool
  | .parameter _ _ => true
  | _ => false

def isMarked (segment : List Char) : Bool :=
  segment.head? == some ':' || segment.head? == some '*'

def ofText? (text : String) : Option Pattern :=
  match text.toList with
  | '/' :: path => do
      let parts ← readEnd (← (unescaped path).foldlM readStep ([], .literal []))
      if (Text.segments '/' path).any isMarked then none
      else if maximumParameters < parts.countP Part.isParameter then none
      else some ⟨parts⟩
  | _ => none

/-! ## Matching -/

abbrev Capture := List (String × List Char)

def behind? (lead text : List Char) : Option (List Char) :=
  if lead.isPrefixOf text then some (text.drop lead.length) else none

def matchParts : List Part → List (List Char) → Option Capture
  | [], [] => some []
  | .literal text :: parts, segment :: segments =>
      if text = segment then matchParts parts segments else none
  | [.parameter name lead], [segment] => do
      let value ← behind? lead segment
      if value.isEmpty then none else some [(name, value)]
  | .parameter name lead :: parts, segment :: segments => do
      some ((name, ← behind? lead segment) :: (← matchParts parts segments))
  | [.rest name lead], segment :: segments => do
      let remaining ← behind? lead (['/'].intercalate (segment :: segments))
      if remaining.isEmpty then none else some [(name, remaining)]
  | _, _ => none

def capture? (pattern : Pattern) (path : String) : Option Capture :=
  match path.toList with
  | '/' :: rest => matchParts pattern.parts (Text.segments '/' rest)
  | _ => none

/-! ## Preference -/

def Part.ranks : Part → List Nat
  | .literal text => List.replicate (text.length + 1) 0
  | .parameter _ lead => List.replicate lead.length 0 ++ [1, 0]
  | .rest _ lead => List.replicate lead.length 0 ++ [2]

def ranksPrecede : List Nat → List Nat → Bool
  | left :: lefts, right :: rights => left < right || (left == right && ranksPrecede lefts rights)
  | _, _ => false

def precedes (pattern other : Pattern) : Bool :=
  ranksPrecede (pattern.parts.flatMap Part.ranks) (other.parts.flatMap Part.ranks)

/-- Whether two lists of parts cannot be told apart by any path: they are equal but for names, up to
the end or up to a place where one has a parameter and the other a rest. -/
def partsCollide : List Part → List Part → Bool
  | [], [] => true
  | .literal left :: lefts, .literal right :: rights => left == right && partsCollide lefts rights
  | .parameter _ left :: lefts, .parameter _ right :: rights =>
      left == right && partsCollide lefts rights
  | .rest _ left :: _, .rest _ right :: _ => left == right
  | .parameter _ left :: _, .rest _ right :: _ => left == right
  | .rest _ left :: _, .parameter _ right :: _ => left == right
  | _, _ => false

def collides (pattern other : Pattern) : Bool :=
  pattern != other && partsCollide pattern.parts other.parts

/-! ## Parameters -/

/-- The texts that names stand for. Nothing at all is known if one of them is no text. -/
def parameters? (capture : Capture) : Option (List (String × String)) :=
  capture.mapM fun (name, segment) =>
    (Text.decode? (Text.Percent.decode (segment.flatMap Text.encodeChar))).map (name, ·)

end Pattern

example : (Pattern.ofText? "/a/\x7bx\x7d").bind (·.capture? "/a/b") = some [("x", ['b'])] := by
  decide +kernel
example : (Pattern.ofText? "/a/\x7bx\x7d").bind (·.capture? "/a/") = none := by decide +kernel
example : (Pattern.ofText? "/a/\x7bx\x7d/b").bind (·.capture? "/a//b") = some [("x", [])] := by
  decide +kernel
example : (Pattern.ofText? "/a-\x7bx\x7d").bind (·.capture? "/a-b") = some [("x", ['b'])] := by
  decide +kernel
example : (Pattern.ofText? "/\x7b\x7b\x7bx\x7d").bind (·.capture? "/\x7bb") =
    some [("x", ['b'])] := by decide +kernel

end TokenAuthority.Http

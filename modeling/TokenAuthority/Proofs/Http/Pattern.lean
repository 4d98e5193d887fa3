import TokenAuthority.Http.Pattern
import TokenAuthority.Proofs.Text.Segments

/-!
# What a matched path holds

A capture has a value for each name of the pattern, and with these values in place of its names the
pattern is the path again. So what stands for a name is literally what the path has in that place.
-/

namespace TokenAuthority

namespace Http.Pattern

/-! ## Names and values -/

def Part.name? : Part → Option String
  | .literal _ => none
  | .parameter name _ | .rest name _ => some name

def names (pattern : Pattern) : List String :=
  pattern.parts.filterMap Part.name?

/-- The path that parts make with values in place of their names. -/
def fillParts : List Part → Capture → List Char
  | .literal text :: parts, capture => '/' :: text ++ fillParts parts capture
  | .parameter _ lead :: parts, (_, value) :: capture =>
      '/' :: (lead ++ value) ++ fillParts parts capture
  | .rest _ lead :: parts, (_, value) :: capture =>
      '/' :: (lead ++ value) ++ fillParts parts capture
  | _, _ => []

theorem behind?_eq_some {lead text value : List Char} (found : behind? lead text = some value) :
    text = lead ++ value := by
  simp only [behind?] at found
  split at found
  · rename_i leads
    cases found
    rcases List.isPrefixOf_iff_prefix.mp leads with ⟨rest, rfl⟩
    simp
  · cases found

theorem matchParts_eq_some {parts : List Part} {segments : List (List Char)} {capture : Capture}
    (matched : matchParts parts segments = some capture) :
    capture.map (·.1) = parts.filterMap Part.name? ∧
      fillParts parts capture = segments.flatMap ('/' :: ·) := by
  fun_induction matchParts parts segments generalizing capture with
  | case1 =>
      cases matched
      exact ⟨rfl, rfl⟩
  | case2 text parts segments induction =>
      rcases induction matched with ⟨named, filled⟩
      exact ⟨named, by simp only [fillParts, filled, List.flatMap_cons]⟩
  | case3 => cases matched
  | case4 name lead segment =>
      simp only [Option.bind_eq_bind, Option.bind_eq_some_iff] at matched
      rcases matched with ⟨value, found, isValue⟩
      split at isValue
      · cases isValue
      cases isValue
      cases behind?_eq_some found
      exact ⟨rfl, by simp [fillParts]⟩
  | case5 name lead parts segment segments _ induction =>
      simp only [Option.bind_eq_bind, Option.bind_eq_some_iff, Option.some.injEq] at matched
      rcases matched with ⟨value, found, others, areOthers, rfl⟩
      rcases induction areOthers with ⟨named, filled⟩
      cases behind?_eq_some found
      exact ⟨by simp [named, Part.name?], by simp only [fillParts, filled, List.flatMap_cons]⟩
  | case6 name lead segment segments =>
      simp only [Option.bind_eq_bind, Option.bind_eq_some_iff] at matched
      rcases matched with ⟨value, found, isValue⟩
      split at isValue
      · cases isValue
      cases isValue
      rw [Text.flatMap_eq_intercalate, behind?_eq_some found]
      exact ⟨rfl, by simp [fillParts]⟩
  | case7 => cases matched

theorem of_capture?_eq_some {pattern : Pattern} {path : String} {capture : Capture}
    (matched : pattern.capture? path = some capture) :
    capture.map (·.1) = pattern.names ∧ path.toList = fillParts pattern.parts capture := by
  simp only [capture?] at matched
  split at matched
  · rename_i rest isPath
    rcases matchParts_eq_some matched with ⟨named, filled⟩
    exact ⟨named, by rw [filled, Text.flatMap_segments, isPath]⟩
  · cases matched

/-! ## Values as texts -/

/-- The text that a captured value spells in percent encoding, if its bytes are text. -/
def textOf? (value : List Char) : Option String :=
  Text.decode? (Text.Percent.decode (value.flatMap Text.encodeChar))

def AllTexts (capture : Capture) : Prop :=
  ∀ entry ∈ capture, (textOf? entry.2).isSome = true

theorem parameters?_nil : parameters? [] = some [] := rfl

theorem parameters?_cons (name : String) (value : List Char) (capture : Capture) :
    parameters? ((name, value) :: capture) =
      (textOf? value).bind fun text => (parameters? capture).map ((name, text) :: ·) := by
  simp only [parameters?, textOf?, List.mapM_cons]
  cases Text.decode? (Text.Percent.decode (value.flatMap Text.encodeChar)) with
  | none => rfl
  | some text => cases List.mapM (m := Option) _ capture <;> rfl

/-- The parameters are known if all values spell texts; one that spells none is enough, and none of
them is known. -/
theorem isSome_parameters?_iff {capture : Capture} :
    (parameters? capture).isSome = true ↔ AllTexts capture := by
  induction capture with
  | nil => simp [parameters?_nil, AllTexts]
  | cons entry capture induction =>
      rw [parameters?_cons]
      simp only [AllTexts, List.forall_mem_cons] at induction ⊢
      cases textOf? entry.2 with
      | none => simp
      | some text => simpa using induction

def lastValue? (name : String) (capture : Capture) : Option (List Char) :=
  capture.reverse.lookup name

theorem isSome_lastValue?_iff {name : String} {capture : Capture} :
    (lastValue? name capture).isSome = true ↔ name ∈ capture.map (·.1) := by
  simp [lastValue?, List.lookup_isSome_iff]

theorem mem_of_lastValue? {name : String} {capture : Capture} {value : List Char}
    (found : lastValue? name capture = some value) : (name, value) ∈ capture := by
  rcases List.lookup_eq_some_iff.mp found with ⟨before, after, split, _⟩
  rw [← List.mem_reverse, split]
  simp

theorem lookup_parameters? {capture : Capture} {parameters : List (String × String)}
    (known : parameters? capture = some parameters) (name : String) :
    parameters.reverse.lookup name = (lastValue? name capture).bind textOf? := by
  induction capture generalizing parameters with
  | nil =>
      cases known
      rfl
  | cons entry capture induction =>
      rcases entry with ⟨first, held⟩
      rw [parameters?_cons] at known
      rcases Option.bind_eq_some_iff.mp known with ⟨text, isText, rest⟩
      rcases Option.map_eq_some_iff.mp rest with ⟨others, areOthers, rfl⟩
      rw [List.reverse_cons, List.lookup_append, induction areOthers, lastValue?, lastValue?,
        List.reverse_cons, List.lookup_append]
      cases later : capture.reverse.lookup name with
      | none =>
          by_cases same : name = first
          · simp [same, isText]
          · simp [List.lookup_cons, beq_false_of_ne same]
      | some value =>
          have texts := isSome_parameters?_iff.mp (by rw [areOthers]; rfl)
          rcases Option.isSome_iff_exists.mp (texts _ (mem_of_lastValue? later)) with
            ⟨spelled, isSpelled⟩
          simp [isSpelled]

end Http.Pattern

end TokenAuthority

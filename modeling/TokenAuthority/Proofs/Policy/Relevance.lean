import TokenAuthority.Proofs.Policy.Loading

/-!
# What a rule depends on

A rule asks for certain bindings and for what stands under certain paths of the input, in its own
body and in those of the rules it leads to. Nothing else has a part in what it says: neither other
rules and bindings nor what no path that it asks for leads to, over or through.
-/

namespace TokenAuthority.Policy

/-! ## Places in an input -/

inductive Step where
  | member (name : String)
  | element (index : Nat)

/-- Two values, either of which may be missing, are the same but for what stands at a place. -/
inductive DiffersAt : (place : List Step) → (left right : Option Json) → Prop
  | here (left right : Option Json) : DiffersAt [] left right
  | member {name : String} {place : List Step} {left right : List (String × Json)}
      (others : ∀ other, other ≠ name → Entries.get? other left = Entries.get? other right)
      (differs : DiffersAt place (Entries.get? name left) (Entries.get? name right)) :
      DiffersAt (.member name :: place) (some (.object left)) (some (.object right))
  | element {index : Nat} {place : List Step} {left right : List Json}
      (others : ∀ other : Nat, other ≠ index → left[other]? = right[other]?)
      (differs : DiffersAt place left[index]? right[index]?) :
      DiffersAt (.element index :: place) (some (.array left)) (some (.array right))

def Step.IsNamed (segment : List Char) : Step → Prop
  | .member name => String.ofList segment = name
  | .element index => Text.decimal? Word.size64 segment = some index

/-- Segments lead to a place, to something that holds it, or to something in it. -/
def MeetAt : (segments : List (List Char)) → (place : List Step) → Prop
  | segment :: segments, step :: place => step.IsNamed segment ∧ MeetAt segments place
  | _, _ => True

/-- A path leads to a place, to something that holds it, or to something in it. The empty path leads
to the whole input. -/
def Meets (path : String) (place : List Step) : Prop :=
  path = "" ∨ MeetAt (Text.segments '.' path.toList) place

theorem DiffersAt.bind_walk?_eq {place : List Step} {left right : Option Json}
    (differs : DiffersAt place left right) {segments : List (List Char)}
    (elsewhere : ¬MeetAt segments place) :
    left.bind (walk? segments) = right.bind (walk? segments) := by
  induction differs generalizing segments with
  | here left right => exact absurd (by cases segments <;> trivial) elsewhere
  | @member name place left right others differs induction =>
      cases segments with
      | nil => exact absurd trivial elsewhere
      | cons segment segments =>
          simp only [Option.bind_some, walk?, step?]
          by_cases named : String.ofList segment = name
          · rw [named]
            exact induction fun meet => elsewhere ⟨named, meet⟩
          · rw [others _ named]
  | @element index place left right others differs induction =>
      cases segments with
      | nil => exact absurd trivial elsewhere
      | cons segment segments =>
          simp only [Option.bind_some, walk?, step?]
          cases number : Text.decimal? Word.size64 segment with
          | none => rfl
          | some other =>
              rw [Option.bind_some, Option.bind_some]
              by_cases named : other = index
              · subst named
                exact induction fun meet => elsewhere ⟨number, meet⟩
              · rw [others _ named]

theorem DiffersAt.lookup?_eq {place : List Step} {input changed : Json}
    (differs : DiffersAt place (some input) (some changed)) {path : String}
    (elsewhere : ¬Meets path place) : lookup? input path = lookup? changed path := by
  rw [Meets, not_or] at elsewhere
  have notEmpty : path.isEmpty = false := by simpa using elsewhere.1
  simp only [lookup?, notEmpty, Bool.false_eq_true, if_false]
  exact differs.bind_walk?_eq elsewhere.2

/-! ## Values of expressions -/

namespace Scene

variable {scene other : Scene} {depth : Nat} {items : List Expression}

theorem value_series_congr (goesOn : Bool)
    (same : ∀ item ∈ items, scene.value depth item = other.value depth item) :
    scene.value depth (.series goesOn items) = other.value depth (.series goesOn items) := by
  induction items with
  | nil => rw [value_series_nil, value_series_nil]
  | cons item rest induction =>
      rw [List.forall_mem_cons] at same
      by_cases next : scene.value depth item = .ok goesOn
      · rw [value_series_next next, value_series_next (same.1 ▸ next), induction same.2]
      · rw [value_series_stop next, value_series_stop (same.1 ▸ next), same.1]

theorem value_congr {expression : Expression}
    (tests : ∀ predicate, scene.policy.Reaches expression (.test predicate) →
      scene.holds? predicate = other.holds? predicate)
    (rules : ∀ name, scene.policy.Reaches expression (.rule name) →
      scene.value depth (.rule name) = other.value depth (.rule name)) :
    scene.value depth expression = other.value depth expression := by
  induction expression using Expression.childInduction with
  | step expression children =>
      have below : ∀ child ∈ expression.children,
          scene.value depth child = other.value depth child := by
        intro child isChild
        apply children child isChild
        · exact fun predicate reaches => tests predicate (.child isChild reaches)
        · exact fun name reaches => rules name (.child isChild reaches)
      cases expression with
      | constant value => rfl
      | test predicate => rw [value_test, value_test, tests predicate (.here _)]
      | rule name => exact rules name (.here _)
      | not inner => rw [value_not, value_not, below inner (by simp [Expression.children])]
      | all items => exact value_series_congr true below
      | any items => exact value_series_congr false below

theorem value_eq_of_reaches {start : Expression}
    (tests : ∀ predicate, scene.policy.Reaches start (.test predicate) →
      scene.holds? predicate = other.holds? predicate)
    (rules : ∀ name, scene.policy.Reaches start (.rule name) →
      scene.policy.rules.get? name = other.policy.rules.get? name)
    (depth : Nat) : scene.value depth start = other.value depth start := by
  induction depth generalizing start with
  | zero => exact value_congr tests fun _ _ => rfl
  | succ depth induction =>
      apply value_congr tests
      intro name reaches
      cases defined : scene.policy.rules.get? name with
      | none =>
          rw [value_rule_of_undefined defined,
            value_rule_of_undefined ((rules name reaches).symm.trans defined)]
      | some body =>
          rw [value_rule_of_defined defined,
            value_rule_of_defined ((rules name reaches).symm.trans defined)]
          have leads : ∀ reached, scene.policy.Reaches body reached →
              scene.policy.Reaches start reached :=
            fun reached onwards => reaches.trans (.rule defined onwards)
          apply induction
          · exact fun predicate onwards => tests predicate (leads _ onwards)
          · exact fun inner onwards => rules inner (leads _ onwards)

end Scene

/-! ## Modules -/

namespace Module

/-- The operand stands in a predicate to which the rule leads. -/
def Asks (policy : Module) (root : String) (operand : Operand) : Prop :=
  ∃ predicate, policy.Reaches (.rule root) (.test predicate) ∧ predicate.Uses operand

structure SameFrom (root : String) (policy other : Module) : Prop where
  rules : ∀ name, policy.Reaches (.rule root) (.rule name) →
    policy.rules.get? name = other.rules.get? name
  bindings : ∀ name, policy.Asks root (.binding name) →
    policy.bindings.get? name = other.bindings.get? name

/-- A change of the input at a place that no path which the rule asks for meets. -/
def Overlooks (policy : Module) (root : String) (input changed : Json) : Prop :=
  ∃ place, DiffersAt place (some input) (some changed) ∧
    ∀ path, policy.Asks root (.input path) → ¬Meets path place

variable {policy other : Module} {root : String} {input changed : Json}

theorem Overlooks.lookup?_eq
    (overlooks : Relation.ReflTransGen (policy.Overlooks root) input changed) {path : String}
    (asks : policy.Asks root (.input path)) : lookup? input path = lookup? changed path := by
  induction overlooks with
  | refl => rfl
  | tail _ step induction =>
      rcases step with ⟨place, differs, elsewhere⟩
      exact induction.trans (differs.lookup?_eq (elsewhere path asks))

theorem SameFrom.evaluate_eq (same : SameFrom root policy other) (sound : policy.Sound)
    (known : policy.hasRule root = true)
    (paths : ∀ path, policy.Asks root (.input path) → lookup? input path = lookup? changed path)
    (verifies? : (token key issuer : String) → Option Bool) :
    policy.evaluate verifies? root input = other.evaluate verifies? root changed := by
  rcases Option.isSome_iff_exists.mp known with ⟨body, defined⟩
  have otherDefined := (same.rules root (.here _)).symm.trans defined
  let scene : Scene := { policy, input, verifies? }
  let renewed : Scene := { policy := other, input := changed, verifies? }
  have tests : ∀ predicate, policy.Reaches (.rule root) (.test predicate) →
      scene.holds? predicate = renewed.holds? predicate := by
    intro predicate reaches
    apply Scene.holds?_congr
    · rfl
    · intro operand uses
      cases operand with
      | input path => exact paths path ⟨predicate, reaches, uses⟩
      | binding name => exact same.bindings name ⟨predicate, reaches, uses⟩
      | literal value => rfl
  have agree : scene.value maximumDepth body = renewed.value maximumDepth body := by
    apply Scene.value_eq_of_reaches
    · exact fun predicate onwards => tests predicate (.rule defined onwards)
    · exact fun name onwards => same.rules name (.rule defined onwards)
  -- The bodies come to the same, so whatever is said of the one is said of the other.
  cases given : scene.value maximumDepth body with
  | ok answer =>
      rw [(evaluate_eq_ok_iff defined).mpr given,
        (evaluate_eq_ok_iff otherDefined).mpr (agree.symm.trans given)]
  | error obstacle =>
      cases obstacle with
      | tooDeep =>
          rw [(evaluate_eq_tooDeep_iff defined).mpr given,
            (evaluate_eq_tooDeep_iff otherDefined).mpr (agree.symm.trans given)]
      | noVerdict =>
          rw [(evaluate_eq_noVerdict_iff defined).mpr given,
            (evaluate_eq_noVerdict_iff otherDefined).mpr (agree.symm.trans given)]
      | unknownRule name =>
          exact absurd given (Scene.value_ne_unknownRule sound (sound.knows defined) name)

/-- What a rule says depends only on the rules that it leads to, the bindings that they ask for and
what stands under the paths that they ask for. So the input may be changed wherever none of these
paths leads to, over or through. It says yes or no, or that the references went too deep, unless
there is a token to judge by a clock that shows less than a minute. -/
theorem only_what_is_reached_matters (policy other : Module) (sound : policy.Sound) (root : String)
    (known : policy.hasRule root = true) (same : SameFrom root policy other) (now : Seconds)
    (input changed : Json) :
    let first := policy.evaluate (Token.verifies? now) root input
    let second := other.evaluate (Token.verifies? now) root changed
    ((∀ path, policy.Asks root (.input path) → lookup? input path = lookup? changed path) →
        first = second) ∧
      (Relation.ReflTransGen (policy.Overlooks root) input changed → first = second) ∧
      ((∃ answer, first = .ok answer) ∨ first = .error (.tooDeep root 32) ∨
        now.toInt < 60 ∧ first = .error .noVerdict) := by
  intro first second
  refine ⟨?_, ?_, ?_⟩
  · intro paths
    exact same.evaluate_eq sound known paths _
  · intro overlooks
    apply same.evaluate_eq sound known
    intro path
    exact Overlooks.lookup?_eq overlooks
  · rcases answer_or_obstacle sound known now with isAnswer | tooDeep | ⟨unjudged, early⟩
    · exact .inl isAnswer
    · exact .inr (.inl tooDeep)
    · exact .inr (.inr ⟨early, unjudged⟩)

/-! A rule about the subject of claims, in a module with more than it needs. -/

def isOwnerTest : Predicate := .equal (.input "claims.sub") (.binding "owner")

def owned : Module where
  package := "owned"
  bindings := Register.empty.set "owner" (.string "ann")
  rules := Register.empty.set "owner" (.test isOwnerTest)

def furnished : Module where
  package := "furnished"
  bindings := owned.bindings.set "guest" (.string "bob")
  rules := owned.rules.set "again" againBody

theorem furnished_sound : furnished.Sound := by
  rw [sound_iff_allDefined, ← looseReference?_eq_none_iff]
  cbv

theorem reaches_owner_cases {reached : Expression}
    (reaches : furnished.Reaches (.rule "owner") reached) :
    reached = .rule "owner" ∨ reached = .test isOwnerTest := by
  have known : reached ∈ [.rule "owner", .test isOwnerTest] := by
    apply reaches.mem_of_closed
    · simp [Expression.children]
    · intro name body member defined
      rcases List.mem_cons.mp member with same | others
      · cases same
        cases defined
        simp
      · simp at others
    · simp
  simpa using known

theorem uses_of_asks_owner {operand : Operand} (asks : furnished.Asks "owner" operand) :
    isOwnerTest.Uses operand := by
  rcases asks with ⟨predicate, reaches, uses⟩
  rcases reaches_owner_cases reaches with same | same
  · cases same
  · cases same
    exact uses

theorem same_furnished : SameFrom "owner" furnished owned := by
  constructor
  · intro name reaches
    rcases reaches_owner_cases reaches with same | same
    · cases same
      rfl
    · cases same
  · intro name asks
    cases uses_of_asks_owner asks
    rfl

def claimsInput (more : List (String × Json)) : Json :=
  .object [("claims", .object (more ++ [("sub", .string "ann")]))]

theorem furnished_overlooks :
    furnished.Overlooks "owner" (claimsInput [("extra", .bool true)]) (claimsInput []) := by
  refine ⟨[.member "claims", .member "extra"], ?_, ?_⟩
  · apply DiffersAt.member
    · intro other differ
      simp [Entries.get?, differ.symm]
    · apply DiffersAt.member
      · intro other differ
        simp [Entries.get?, differ.symm]
      · exact .here _ _
  · intro path asks
    cases uses_of_asks_owner asks
    have cut : Text.segments '.' "claims.sub".toList = ["claims".toList, "sub".toList] := by decide
    rw [Meets, cut]
    simp [MeetAt, Step.IsNamed]

theorem owner_is_recognized :
    furnished.evaluate (Token.verifies? 150) "owner" (claimsInput [("extra", .bool true)]) =
      .ok true := by
  have matters := only_what_is_reached_matters furnished owned furnished_sound "owner" rfl
    same_furnished 150 (claimsInput [("extra", .bool true)]) (claimsInput [])
  rw [matters.2.1 (.single furnished_overlooks)]
  cbv

end Module

end TokenAuthority.Policy

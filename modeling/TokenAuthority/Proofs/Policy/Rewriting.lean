import TokenAuthority.Proofs.Json.Agreement
import TokenAuthority.Proofs.Policy.Evaluation

/-!
# Rewriting rules

Expressions that come to the same, obstacles included: a negation may be moved into a list, a list
in a list of its kind may be opened, and operands that are compared may be swapped. A reference may
be replaced by the body of the rule it names: this keeps all answers, and it may add some, since one
reference less has to be open.
-/

namespace TokenAuthority.Policy

namespace Scene

variable {scene : Scene} {depth : Nat}

/-! ## Lists -/

/-- The second result, if the first is an answer with which a series goes on. -/
def next (goesOn : Bool) (first second : Except Obstacle Bool) : Except Obstacle Bool :=
  match first with
  | .ok answer => if answer = goesOn then second else .ok answer
  | .error obstacle => .error obstacle

theorem next_of_ne {goesOn : Bool} {first : Except Obstacle Bool} (differ : first ≠ .ok goesOn)
    (second : Except Obstacle Bool) : next goesOn first second = first := by
  cases first with
  | error obstacle => rfl
  | ok answer =>
      have stops : answer ≠ goesOn := fun same => differ (congrArg _ same)
      rw [next, if_neg stops]

theorem value_series_append (goesOn : Bool) (items others : List Expression) :
    scene.value depth (.series goesOn (items ++ others)) =
      next goesOn (scene.value depth (.series goesOn items))
        (scene.value depth (.series goesOn others)) := by
  induction items with
  | nil => rw [value_series_nil, next, if_pos rfl, List.nil_append]
  | cons item rest induction =>
      rw [List.cons_append]
      by_cases goes : scene.value depth item = .ok goesOn
      · rw [value_series_next goes, value_series_next goes, induction]
      · rw [value_series_stop goes, value_series_stop goes, next_of_ne goes]

theorem value_series_singleton (goesOn : Bool) (item : Expression) :
    scene.value depth (.series goesOn [item]) = scene.value depth item := by
  by_cases goes : scene.value depth item = .ok goesOn
  · rw [value_series_next goes, value_series_nil, goes]
  · exact value_series_stop goes []

theorem value_series_flatten (goesOn : Bool) (before items after : List Expression) :
    scene.value depth (.series goesOn (before ++ [.series goesOn items] ++ after)) =
      scene.value depth (.series goesOn (before ++ items ++ after)) := by
  simp only [value_series_append, value_series_singleton]

theorem value_not_eq_iff {item : Expression} {answer : Bool} :
    scene.value depth (.not item) = .ok !answer ↔ scene.value depth item = .ok answer := by
  rw [value_not]
  cases scene.value depth item <;> simp [Except.map]

theorem value_not_series (goesOn : Bool) (items : List Expression) :
    scene.value depth (.not (.series goesOn items)) =
      scene.value depth (.series (!goesOn) (items.map .not)) := by
  induction items with
  | nil =>
      rw [List.map_nil, value_series_nil]
      exact value_not_eq_iff.mpr (value_series_nil goesOn depth)
  | cons item rest induction =>
      rw [List.map_cons]
      by_cases goes : scene.value depth item = .ok goesOn
      · rw [value_not, value_series_next goes, ← value_not,
          value_series_next (value_not_eq_iff.mpr goes), induction]
      · rw [value_not, value_series_stop goes, ← value_not,
          value_series_stop (value_not_eq_iff.not.mpr goes)]

/-! ## Comparisons -/

theorem value_test_eq_true_iff {predicate : Predicate} :
    scene.value depth (.test predicate) = .ok true ↔ scene.Holds predicate := by
  rw [value_test, ← holds?_eq_some_true_iff]
  change told _ = told (some true) ↔ _
  exact told_injective.eq_iff

theorem exists_value_test {predicate : Predicate} (decided : ¬scene.Undecided predicate) :
    ∃ answer, scene.value depth (.test predicate) = .ok answer := by
  rw [← holds?_eq_none_iff] at decided
  rcases Option.ne_none_iff_exists'.mp decided with ⟨answer, isAnswer⟩
  exact ⟨answer, by rw [value_test, isAnswer]; rfl⟩

theorem value_test_congr {first second : Predicate} (decided : ¬scene.Undecided first)
    (alsoDecided : ¬scene.Undecided second) (together : scene.Holds first ↔ scene.Holds second) :
    scene.value depth (.test first) = scene.value depth (.test second) := by
  have same : scene.holds? first = scene.holds? second := by
    rw [← holds?_eq_none_iff] at decided alsoDecided
    rw [← holds?_eq_some_true_iff, ← holds?_eq_some_true_iff] at together
    generalize scene.holds? first = one at *
    generalize scene.holds? second = other at *
    rcases one with _ | _ | _ <;> rcases other with _ | _ | _ <;> simp_all
  rw [value_test, value_test, same]

theorem value_equal_comm (left right : Operand) :
    scene.value depth (.test (.equal left right)) =
      scene.value depth (.test (.equal right left)) := by
  apply value_test_congr id id
  constructor
  · rintro ⟨first, second, isFirst, isSecond, agree⟩
    exact ⟨second, first, isSecond, isFirst, Json.agrees_symm agree⟩
  · rintro ⟨first, second, isFirst, isSecond, agree⟩
    exact ⟨second, first, isSecond, isFirst, Json.agrees_symm agree⟩

theorem holds_intersects_symm {left right : Operand}
    (holds : scene.Holds (.intersects left right)) : scene.Holds (.intersects right left) := by
  rcases holds with
    ⟨items, elements, areItems, areElements, element, isElement, item, isItem, agree⟩
  exact ⟨elements, items, areElements, areItems, item, isItem, element, isElement,
    Json.agrees_symm agree⟩

theorem value_intersects_comm (left right : Operand) :
    scene.value depth (.test (.intersects left right)) =
      scene.value depth (.test (.intersects right left)) :=
  value_test_congr id id ⟨holds_intersects_symm, holds_intersects_symm⟩

theorem value_equal_eq_true_iff (left right : Operand) :
    scene.value depth (.test (.equal left right)) = .ok true ↔
      ∃ first second, scene.resolve? left = some first ∧ scene.resolve? right = some second ∧
        first.Alike second := by
  simp only [value_test_eq_true_iff, Holds, Json.agrees_iff_alike]

theorem value_contains_eq_true_iff (collection value : Operand) :
    scene.value depth (.test (.contains collection value)) = .ok true ↔
      ∃ items element, scene.resolve? collection = some (.array items) ∧
        scene.resolve? value = some element ∧ ∃ item ∈ items, element.Alike item := by
  simp only [value_test_eq_true_iff, Holds, Json.agrees_iff_alike]

theorem value_intersects_eq_true_iff (collection values : Operand) :
    scene.value depth (.test (.intersects collection values)) = .ok true ↔
      ∃ items elements, scene.resolve? collection = some (.array items) ∧
        scene.resolve? values = some (.array elements) ∧ ∃ element ∈ elements,
          scene.value depth (.test (.contains collection (.literal element))) = .ok true := by
  simp only [value_test_eq_true_iff, Holds]
  constructor
  · rintro ⟨items, elements, areItems, areElements, element, isElement, contained⟩
    exact ⟨items, elements, areItems, areElements, element, isElement, items, element, areItems,
      rfl, contained⟩
  · rintro ⟨items, elements, _, areElements, element, isElement, others, _, areOthers, ⟨⟩,
      contained⟩
    exact ⟨others, elements, areOthers, areElements, element, isElement, contained⟩

end Scene

/-! ## Inlined references -/

namespace Module

/-- An expression with one reference, wherever it stands, replaced by the body of the rule that it
names. -/
inductive Inlines (policy : Module) : Expression → Expression → Prop
  | here {name : String} {body : Expression} (defined : policy.rules.get? name = some body) :
      Inlines policy (.rule name) body
  | not {inner new : Expression} (inlines : Inlines policy inner new) :
      Inlines policy (.not inner) (.not new)
  | all (before after : List Expression) {item new : Expression}
      (inlines : Inlines policy item new) :
      Inlines policy (.all (before ++ item :: after)) (.all (before ++ new :: after))
  | any (before after : List Expression) {item new : Expression}
      (inlines : Inlines policy item new) :
      Inlines policy (.any (before ++ item :: after)) (.any (before ++ new :: after))

inductive InlinesTo (policy : Module) : Module → Prop
  | mk {name : String} {body new : Expression} (defined : policy.rules.get? name = some body)
      (inlines : policy.Inlines body new) :
      InlinesTo policy { policy with rules := policy.rules.set name new }

/-- An expression with any number of references replaced by what the bodies of their rules unfold
to. -/
inductive Unfolds (policy : Module) : Expression → Expression → Prop
  | constant (value : Bool) : Unfolds policy (.constant value) (.constant value)
  | test (predicate : Predicate) : Unfolds policy (.test predicate) (.test predicate)
  | stays (name : String) : Unfolds policy (.rule name) (.rule name)
  | opened {name : String} {body new : Expression} (defined : policy.rules.get? name = some body)
      (unfolds : Unfolds policy body new) : Unfolds policy (.rule name) new
  | not {inner new : Expression} (unfolds : Unfolds policy inner new) :
      Unfolds policy (.not inner) (.not new)
  | all {items news : List Expression} (unfold : List.Forall₂ (Unfolds policy) items news) :
      Unfolds policy (.all items) (.all news)
  | any {items news : List Expression} (unfold : List.Forall₂ (Unfolds policy) items news) :
      Unfolds policy (.any items) (.any news)

variable {policy : Module}

theorem Unfolds.refl (expression : Expression) : policy.Unfolds expression expression := by
  induction expression using Expression.childInduction with
  | step expression children =>
      cases expression with
      | constant value => exact .constant value
      | test predicate => exact .test predicate
      | rule name => exact .stays name
      | not inner => exact .not (children inner (by simp [Expression.children]))
      | all items => exact .all (List.forall₂_same.mpr children)
      | any items => exact .any (List.forall₂_same.mpr children)

theorem Unfolds.all_cons_cases {item new : Expression} {rest : List Expression}
    (unfolds : policy.Unfolds (.all (item :: rest)) new) :
    ∃ first others, new = .all (first :: others) ∧ policy.Unfolds item first ∧
      policy.Unfolds (.all rest) (.all others) := by
  cases unfolds with
  | all unfold =>
      cases unfold with
      | cons first others => exact ⟨_, _, rfl, first, .all others⟩

theorem Unfolds.any_cons_cases {item new : Expression} {rest : List Expression}
    (unfolds : policy.Unfolds (.any (item :: rest)) new) :
    ∃ first others, new = .any (first :: others) ∧ policy.Unfolds item first ∧
      policy.Unfolds (.any rest) (.any others) := by
  cases unfolds with
  | any unfold =>
      cases unfold with
      | cons first others => exact ⟨_, _, rfl, first, .any others⟩

theorem Unfolds.replaced (before after : List Expression) {item new : Expression}
    (unfolds : policy.Unfolds item new) :
    List.Forall₂ policy.Unfolds (before ++ item :: after) (before ++ new :: after) := by
  have stay : ∀ others : List Expression, List.Forall₂ policy.Unfolds others others :=
    fun others => List.forall₂_same.mpr fun other _ => .refl other
  exact List.rel_append (stay before) (.cons unfolds (stay after))

theorem Inlines.unfolds {expression new : Expression} (inlines : policy.Inlines expression new) :
    policy.Unfolds expression new := by
  induction inlines with
  | here defined => exact .opened defined (.refl _)
  | not inlines induction => exact .not induction
  | all before after inlines induction => exact .all (induction.replaced before after)
  | any before after inlines induction => exact .any (induction.replaced before after)

def Unfolded (policy other : Module) : Prop :=
  ∀ name body, policy.rules.get? name = some body →
    ∃ new, other.rules.get? name = some new ∧ policy.Unfolds body new

theorem InlinesTo.unfolded {other : Module} (inlined : policy.InlinesTo other) :
    policy.Unfolded other := by
  rcases inlined with @⟨changed, old, new, defined, inlines⟩
  intro name body isBody
  by_cases same : name = changed
  · subst same
    rw [defined] at isBody
    cases isBody
    exact ⟨new, by simp, inlines.unfolds⟩
  · exact ⟨body, by simp [Register.get?_set_of_ne _ same, isBody], .refl body⟩

end Module

theorem Scene.Yields.unfolded {scene other : Scene}
    (tests : ∀ predicate, scene.holds? predicate = other.holds? predicate)
    (rules : scene.policy.Unfolded other.policy) {expression new : Expression}
    {verdict : Option Bool} {depth : Nat} (yields : scene.Yields expression verdict depth)
    (unfolds : scene.policy.Unfolds expression new) :
    ∃ needed ≤ depth, other.Yields new verdict needed := by
  induction yields generalizing new with
  | constant value =>
      cases unfolds
      exact ⟨0, Nat.le_refl 0, .constant value⟩
  | test judges =>
      cases unfolds
      exact ⟨0, Nat.le_refl 0, .test (judges_iff.mpr (tests _ ▸ judges_iff.mp judges))⟩
  | not yields induction =>
      cases unfolds with
      | not unfolds =>
          rcases induction unfolds with ⟨needed, enough, yields⟩
          exact ⟨needed, enough, yields.not⟩
  | @rule name body verdict depth defined yields induction =>
      cases unfolds with
      | stays =>
          rcases rules name body defined with ⟨newBody, newDefined, unfolds⟩
          rcases induction unfolds with ⟨needed, enough, yields⟩
          exact ⟨needed + 1, Nat.succ_le_succ enough, .rule newDefined yields⟩
      | opened isBody unfolds =>
          rw [defined] at isBody
          cases isBody
          rcases induction unfolds with ⟨needed, enough, yields⟩
          -- The reference is gone, so one less is open at a time than before.
          exact ⟨needed, Nat.le_succ_of_le enough, yields⟩
  | allDone =>
      cases unfolds with
      | all unfold =>
          cases unfold
          exact ⟨0, Nat.le_refl 0, .allDone⟩
  | allStop settles yields induction =>
      rcases unfolds.all_cons_cases with ⟨first, others, rfl, unfoldsFirst, _⟩
      rcases induction unfoldsFirst with ⟨needed, enough, yields⟩
      exact ⟨needed, enough, .allStop settles yields⟩
  | allNext _ _ firstInduction othersInduction =>
      rcases unfolds.all_cons_cases with ⟨first, others, rfl, unfoldsFirst, unfoldsOthers⟩
      rcases firstInduction unfoldsFirst with ⟨needed, enough, yields⟩
      rcases othersInduction unfoldsOthers with ⟨further, enoughFurther, yieldsOthers⟩
      exact ⟨max needed further, max_le_max enough enoughFurther, .allNext yields yieldsOthers⟩
  | anyDone =>
      cases unfolds with
      | any unfold =>
          cases unfold
          exact ⟨0, Nat.le_refl 0, .anyDone⟩
  | anyStop settles yields induction =>
      rcases unfolds.any_cons_cases with ⟨first, others, rfl, unfoldsFirst, _⟩
      rcases induction unfoldsFirst with ⟨needed, enough, yields⟩
      exact ⟨needed, enough, .anyStop settles yields⟩
  | anyNext _ _ firstInduction othersInduction =>
      rcases unfolds.any_cons_cases with ⟨first, others, rfl, unfoldsFirst, unfoldsOthers⟩
      rcases firstInduction unfoldsFirst with ⟨needed, enough, yields⟩
      rcases othersInduction unfoldsOthers with ⟨further, enoughFurther, yieldsOthers⟩
      exact ⟨max needed further, max_le_max enough enoughFurther, .anyNext yields yieldsOthers⟩

namespace Module

variable {policy : Module} {verifies? : (token key issuer : String) → Option Bool}
  {input : Json}

theorem InlinesTo.holds?_eq {other : Module} (inlined : policy.InlinesTo other)
    (predicate : Predicate) :
    Scene.holds? { policy, input, verifies? } predicate =
      Scene.holds? { policy := other, input, verifies? } predicate := by
  cases inlined
  apply Scene.holds?_congr rfl
  intro operand _
  cases operand <;> rfl

theorem InlinesTo.keeps_answer {other : Module} (inlined : policy.InlinesTo other) {root : String}
    {answer : Bool} (isAnswer : policy.evaluate verifies? root input = .ok answer) :
    other.evaluate verifies? root input = .ok answer := by
  cases defined : policy.rules.get? root with
  | none =>
      rw [evaluate_of_undefined defined] at isAnswer
      cases isAnswer
  | some body =>
      rcases inlined.unfolded root body defined with ⟨new, newDefined, unfolds⟩
      rw [evaluate_eq_ok_iff defined] at isAnswer
      rw [evaluate_eq_ok_iff newDefined]
      rcases @Scene.yields_of_value _ _ _ (some answer) isAnswer with ⟨depth, enough, yields⟩
      rcases yields.unfolded inlined.holds?_eq inlined.unfolded unfolds with
        ⟨needed, fewer, yields⟩
      exact yields.value_eq (Nat.le_trans fewer enough)

theorem knows_iff {expression : Expression} :
    policy.Knows expression ↔
      (∀ reference ∈ expression.ownReferences, policy.defines reference = true) ∧
        ∀ child ∈ expression.children, policy.Knows child := by
  simp only [Knows, @Expression.mentions_iff expression]
  constructor
  · intro knows
    exact ⟨fun reference own => knows reference (.inl own),
      fun child isChild reference mentions => knows reference (.inr ⟨child, isChild, mentions⟩)⟩
  · rintro ⟨own, below⟩ reference (isOwn | ⟨child, isChild, mentions⟩)
    · exact own reference isOwn
    · exact below child isChild reference mentions

theorem Inlines.knows (sound : policy.Sound) {expression new : Expression}
    (inlines : policy.Inlines expression new) (knows : policy.Knows expression) :
    policy.Knows new := by
  induction inlines with
  | here defined => exact sound.knows defined
  | not inlines induction =>
      rw [knows_iff] at knows ⊢
      simp only [Expression.children, List.forall_mem_singleton] at knows ⊢
      exact ⟨knows.1, induction knows.2⟩
  | all before after inlines induction | any before after inlines induction =>
      rw [knows_iff] at knows ⊢
      simp only [Expression.children, List.forall_mem_append, List.forall_mem_cons] at knows ⊢
      exact ⟨knows.1, knows.2.1, induction knows.2.2.1, knows.2.2.2⟩

theorem InlinesTo.defines {other : Module} (inlined : policy.InlinesTo other)
    {reference : Reference} (defined : policy.defines reference = true) :
    other.defines reference = true := by
  cases inlined with
  | @mk changed body new isBody inlines =>
      cases reference with
      | binding name => exact defined
      | rule name =>
          rcases Option.isSome_iff_exists.mp defined with ⟨old, isOld⟩
          rcases (InlinesTo.mk isBody inlines).unfolded name old isOld with ⟨held, isHeld, _⟩
          exact Option.isSome_iff_exists.mpr ⟨held, isHeld⟩

theorem InlinesTo.sound {other : Module} (inlined : policy.InlinesTo other)
    (sound : policy.Sound) : other.Sound := by
  rintro reference ⟨entry, member, mentions⟩
  apply inlined.defines
  rcases inlined with @⟨name, body, new, defined, inlines⟩
  rcases Entries.mem_set member with rfl | held
  · exact inlines.knows sound (sound.knows defined) reference mentions
  · exact sound reference ⟨entry, held, mentions⟩

/-- A negation may be moved into a list, a list may be opened in a list of its kind, and the
operands of `equal` and `intersects` may be swapped: all of this leaves the result as it is,
obstacles included. A reference may be replaced by the body of its rule, which keeps all answers. -/
theorem rewriting_laws (policy : Module) (verifies? : (token key issuer : String) → Option Bool)
    (input : Json) :
    let scene : Scene := { policy, input, verifies? }
    (∀ depth items,
      scene.value depth (.not (.all items)) = scene.value depth (.any (items.map .not)) ∧
        scene.value depth (.not (.any items)) = scene.value depth (.all (items.map .not))) ∧
      (∀ depth before items after,
        scene.value depth (.all (before ++ [.all items] ++ after)) =
            scene.value depth (.all (before ++ items ++ after)) ∧
          scene.value depth (.any (before ++ [.any items] ++ after)) =
            scene.value depth (.any (before ++ items ++ after))) ∧
      (∀ depth left right,
        scene.value depth (.test (.equal left right)) =
            scene.value depth (.test (.equal right left)) ∧
          scene.value depth (.test (.intersects left right)) =
            scene.value depth (.test (.intersects right left))) ∧
      (∀ depth collection values,
        scene.value depth (.test (.intersects collection values)) = .ok true ↔
          ∃ items elements, scene.resolve? collection = some (.array items) ∧
            scene.resolve? values = some (.array elements) ∧ ∃ element ∈ elements,
              scene.value depth (.test (.contains collection (.literal element))) = .ok true) ∧
      (∀ depth collection element,
        scene.value depth (.test (.contains collection element)) = .ok true ↔
          ∃ items value, scene.resolve? collection = some (.array items) ∧
            scene.resolve? element = some value ∧ ∃ item ∈ items, value.Alike item) ∧
      (∀ depth left right,
        scene.value depth (.test (.equal left right)) = .ok true ↔
          ∃ first second, scene.resolve? left = some first ∧ scene.resolve? right = some second ∧
            first.Alike second) ∧
      (∀ (whole : Int) (fraction : Json.Binary64),
        ¬(Json.number (.integer whole)).Alike (.number (.float fraction))) ∧
      (∀ depth predicate, (∀ token key issuer, predicate ≠ .verifies token key issuer) →
        ∃ answer, scene.value depth (.test predicate) = .ok answer) ∧
      (∀ other, policy.InlinesTo other →
        (∀ root answer, policy.evaluate verifies? root input = .ok answer →
            other.evaluate verifies? root input = .ok answer) ∧
          (policy.Sound → other.Sound)) := by
  intro scene
  refine ⟨?_, ?_, ?_, ?_, ?_, ?_, nofun, ?_, ?_⟩
  · intro depth items
    exact ⟨Scene.value_not_series true items, Scene.value_not_series false items⟩
  · intro depth before items after
    exact ⟨Scene.value_series_flatten true before items after,
      Scene.value_series_flatten false before items after⟩
  · intro depth left right
    exact ⟨Scene.value_equal_comm left right, Scene.value_intersects_comm left right⟩
  · intro depth
    exact Scene.value_intersects_eq_true_iff
  · intro depth
    exact Scene.value_contains_eq_true_iff
  · intro depth
    exact Scene.value_equal_eq_true_iff
  · intro depth predicate noToken
    apply Scene.exists_value_test
    cases predicate with
    | verifies token key issuer => exact absurd rfl (noToken token key issuer)
    | _ => exact id
  · intro other inlined
    exact ⟨fun root answer => inlined.keeps_answer, inlined.sound⟩

/-! A rule that asks itself again, asked again in its own body. -/

def stopTest : Expression := .test (.nonEmpty (.input "stop"))

def againTwice : Module where
  package := "again"
  bindings := .empty
  rules := again.rules.set "again" (.any [stopTest, againBody])

theorem again_inlinesTo : again.InlinesTo againTwice :=
  @InlinesTo.mk again "again" againBody _ rfl (.any [stopTest] [] (.here rfl))

theorem againTwice_stops :
    again.InlinesTo againTwice ∧ againTwice.Sound ∧
      againTwice.evaluate (Token.verifies? 150) "again" (.object [("stop", .bool true)]) =
        .ok true := by
  have laws := rewriting_laws again (Token.verifies? 150) (.object [("stop", .bool true)])
  have inlined := laws.2.2.2.2.2.2.2.2 againTwice again_inlinesTo
  refine ⟨again_inlinesTo, inlined.2 again_sound, inlined.1 "again" true ?_⟩
  cbv

end Module

end TokenAuthority.Policy

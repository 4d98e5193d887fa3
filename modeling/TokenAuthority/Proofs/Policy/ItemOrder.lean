import Mathlib.Data.List.Perm.Basic
import TokenAuthority.Proofs.Policy.Loading
import TokenAuthority.Proofs.Register

/-!
# The order of items

Items are looked at from left to right, and those behind the one that settles the matter are not
looked at. So their order can decide whether evaluation comes to an end: an item in front may lead
too deep. It never decides what the answer is.
-/

namespace TokenAuthority.Policy

/-! ## Rearranged modules -/

/-- Two expressions are alike but for the order in which items stand in their lists, at any
depth. -/
inductive Expression.Rearranged : (left right : Expression) → Prop
  | constant (value : Bool) : Rearranged (.constant value) (.constant value)
  | test (predicate : Predicate) : Rearranged (.test predicate) (.test predicate)
  | rule (name : String) : Rearranged (.rule name) (.rule name)
  | not {left right : Expression} (inner : Rearranged left right) :
      Rearranged (.not left) (.not right)
  | all {items moved others : List Expression} (order : items.Perm moved)
      (pairs : List.Forall₂ Rearranged moved others) : Rearranged (.all items) (.all others)
  | any {items moved others : List Expression} (order : items.Perm moved)
      (pairs : List.Forall₂ Rearranged moved others) : Rearranged (.any items) (.any others)

structure Module.Rearranged (left right : Module) : Prop where
  package : left.package = right.package
  bindings : left.bindings = right.bindings
  rules : ∀ name,
    Option.Rel Expression.Rearranged (left.rules.get? name) (right.rules.get? name)

theorem exists_left_of_moved {Thing : Type} {related : Thing → Thing → Prop}
    {items moved others : List Thing} (order : items.Perm moved)
    (pairs : List.Forall₂ related moved others) {other : Thing} (member : other ∈ others) :
    ∃ item ∈ items, related item other := by
  simp only [order.mem_iff]
  clear order
  induction pairs with
  | nil => cases member
  | cons pair pairs induction =>
      rcases List.mem_cons.mp member with rfl | behind
      · exact ⟨_, List.mem_cons_self, pair⟩
      · rcases induction behind with ⟨item, isItem, isRelated⟩
        exact ⟨item, List.mem_cons_of_mem _ isItem, isRelated⟩

theorem exists_right_of_moved {Thing : Type} {related : Thing → Thing → Prop}
    {items moved others : List Thing} (order : items.Perm moved)
    (pairs : List.Forall₂ related moved others) {item : Thing} (member : item ∈ items) :
    ∃ other ∈ others, related item other :=
  exists_left_of_moved (List.Perm.refl others) pairs.flip (order.mem_iff.mp member)

/-! ## Lists of items -/

namespace Scene

variable {scene : Scene} {depth : Nat} {goesOn : Bool} {items : List Expression}

theorem value_series_eq_iff :
    scene.value depth (.series goesOn items) = .ok goesOn ↔
      ∀ item ∈ items, scene.value depth item = .ok goesOn := by
  induction items with
  | nil => simp [value_series_nil]
  | cons item rest induction =>
      rw [List.forall_mem_cons]
      by_cases next : scene.value depth item = .ok goesOn
      · rw [value_series_next next, induction]
        simp [next]
      · rw [value_series_stop next]
        simp [next]

theorem exists_of_value_series (stopped : scene.value depth (.series goesOn items) = .ok !goesOn) :
    ∃ item ∈ items, scene.value depth item = .ok !goesOn := by
  induction items with
  | nil => simp [value_series_nil] at stopped
  | cons item rest induction =>
      by_cases next : scene.value depth item = .ok goesOn
      · rw [value_series_next next] at stopped
        rcases induction stopped with ⟨other, member, stops⟩
        exact ⟨other, List.mem_cons_of_mem item member, stops⟩
      · rw [value_series_stop next] at stopped
        exact ⟨item, List.mem_cons_self, stopped⟩

end Scene

/-! ## Answers -/

/-- The answers of two evaluations are the same, if both have one. -/
def SameAnswer {Fault : Type} (left right : Except Fault Bool) : Prop :=
  ∀ first second, left = .ok first → right = .ok second → first = second

theorem sameAnswer_iff {Fault : Type} {left right : Except Fault Bool} (answer : Bool) :
    SameAnswer left right ↔
      ¬(left = .ok answer ∧ right = .ok !answer) ∧ ¬(left = .ok !answer ∧ right = .ok answer) := by
  constructor
  · intro same
    constructor
    · rintro ⟨isFirst, isSecond⟩
      simpa using same _ _ isFirst isSecond
    · rintro ⟨isFirst, isSecond⟩
      simpa using same _ _ isFirst isSecond
  · rintro ⟨notDown, notUp⟩ first second rfl rfl
    cases answer <;> cases first <;> cases second <;> simp_all

namespace Scene

variable {left right : Scene} {depth : Nat}

theorem sameAnswer_series {related : Expression → Expression → Prop}
    {items moved others : List Expression} (goesOn : Bool) (order : items.Perm moved)
    (pairs : List.Forall₂ related moved others)
    (same : ∀ item ∈ items, ∀ other, related item other →
      SameAnswer (left.value depth item) (right.value depth other)) :
    SameAnswer (left.value depth (.series goesOn items))
      (right.value depth (.series goesOn others)) := by
  rw [sameAnswer_iff goesOn]
  constructor
  · rintro ⟨passes, stops⟩
    rcases exists_of_value_series stops with ⟨other, isOther, otherStops⟩
    rcases exists_left_of_moved order pairs isOther with ⟨item, isItem, isRelated⟩
    have itemPasses := value_series_eq_iff.mp passes item isItem
    exact ((sameAnswer_iff goesOn).mp (same item isItem other isRelated)).1
      ⟨itemPasses, otherStops⟩
  · rintro ⟨stops, passes⟩
    rcases exists_of_value_series stops with ⟨item, isItem, itemStops⟩
    rcases exists_right_of_moved order pairs isItem with ⟨other, isOther, isRelated⟩
    have otherPasses := value_series_eq_iff.mp passes other isOther
    exact ((sameAnswer_iff goesOn).mp (same item isItem other isRelated)).2
      ⟨itemStops, otherPasses⟩

private theorem sameAnswer_of_rules
    (tests : ∀ predicate, left.holds? predicate = right.holds? predicate)
    (rules : ∀ name, SameAnswer (left.value depth (.rule name)) (right.value depth (.rule name)))
    {one other : Expression} (rearranged : one.Rearranged other) :
    SameAnswer (left.value depth one) (right.value depth other) := by
  induction one using Expression.childInduction generalizing other with
  | step one children =>
      cases rearranged with
      | constant value =>
          intro first second isFirst isSecond
          cases isFirst
          cases isSecond
          rfl
      | test predicate =>
          intro first second isFirst isSecond
          rw [value_test] at isFirst isSecond
          rw [tests predicate, isSecond] at isFirst
          cases isFirst
          rfl
      | rule name => exact rules name
      | not inner =>
          intro first second isFirst isSecond
          rw [value_not] at isFirst isSecond
          have firstInner := @eq_told_of_not _ (some first) isFirst
          have secondInner := @eq_told_of_not _ (some second) isSecond
          have same := children _ (by simp [Expression.children]) inner _ _ firstInner secondInner
          simpa using same
      | all order pairs =>
          exact sameAnswer_series true order pairs fun item isItem _ => children item isItem
      | any order pairs =>
          exact sameAnswer_series false order pairs fun item isItem _ => children item isItem

end Scene

/-! ## Modules -/

theorem Expression.Rearranged.mentions_iff {left right : Expression}
    (rearranged : left.Rearranged right) {reference : Reference} :
    left.Mentions reference ↔ right.Mentions reference := by
  induction left using Expression.childInduction generalizing right with
  | step left children =>
      rw [Expression.mentions_iff, @Expression.mentions_iff right]
      cases rearranged with
      | constant value => rfl
      | test predicate => rfl
      | rule name => rfl
      | not inner =>
          have same := children _ (by simp [Expression.children]) inner
          simp [Expression.ownReferences, Expression.children, same]
      | all order pairs | any order pairs =>
          simp only [Expression.ownReferences, Expression.children, List.not_mem_nil, false_or]
          constructor
          · rintro ⟨item, isItem, mentions⟩
            rcases exists_right_of_moved order pairs isItem with ⟨other, isOther, rearranged⟩
            exact ⟨other, isOther, (children item isItem rearranged).mp mentions⟩
          · rintro ⟨other, isOther, mentions⟩
            rcases exists_left_of_moved order pairs isOther with ⟨item, isItem, rearranged⟩
            exact ⟨item, isItem, (children item isItem rearranged).mpr mentions⟩

namespace Module

variable {policy moved : Module} {verifies? : (token key issuer : String) → Option Bool}
  {root : String} {input : Json}

theorem mentions_iff_of_get? {reference : Reference} :
    policy.Mentions reference ↔
      ∃ name body, policy.rules.get? name = some body ∧ body.Mentions reference := by
  simp only [Mentions, Register.get?_eq_some_iff, Prod.exists]

theorem Rearranged.rule_cases (rearranged : policy.Rearranged moved) (name : String) :
    (policy.rules.get? name = none ∧ moved.rules.get? name = none) ∨
      ∃ body other, policy.rules.get? name = some body ∧ moved.rules.get? name = some other ∧
        body.Rearranged other := by
  have related := rearranged.rules name
  generalize policy.rules.get? name = first at related ⊢
  generalize moved.rules.get? name = second at related ⊢
  cases related with
  | none => exact .inl ⟨rfl, rfl⟩
  | some bodies => exact .inr ⟨_, _, rfl, rfl, bodies⟩

theorem Rearranged.mentions_iff (rearranged : policy.Rearranged moved) {reference : Reference} :
    policy.Mentions reference ↔ moved.Mentions reference := by
  simp only [mentions_iff_of_get?]
  constructor
  · rintro ⟨name, body, defined, mentions⟩
    rcases rearranged.rule_cases name with ⟨undefined, _⟩ | ⟨one, other, isOne, isOther, bodies⟩
    · rw [undefined] at defined
      cases defined
    · rw [isOne] at defined
      cases defined
      exact ⟨name, other, isOther, bodies.mentions_iff.mp mentions⟩
  · rintro ⟨name, body, defined, mentions⟩
    rcases rearranged.rule_cases name with ⟨_, undefined⟩ | ⟨one, other, isOne, isOther, bodies⟩
    · rw [undefined] at defined
      cases defined
    · rw [isOther] at defined
      cases defined
      exact ⟨name, one, isOne, bodies.mentions_iff.mpr mentions⟩

theorem Rearranged.defines_eq (rearranged : policy.Rearranged moved) (reference : Reference) :
    policy.defines reference = moved.defines reference := by
  cases reference with
  | binding name => rw [defines, defines, rearranged.bindings]
  | rule name =>
      rcases rearranged.rule_cases name with ⟨isNone, otherNone⟩ | ⟨_, _, isSome, otherSome, _⟩
      · simp [defines, hasRule, isNone, otherNone]
      · simp [defines, hasRule, isSome, otherSome]

theorem Rearranged.sound_iff (rearranged : policy.Rearranged moved) :
    policy.Sound ↔ moved.Sound := by
  simp only [Sound, rearranged.mentions_iff, rearranged.defines_eq]

theorem Rearranged.sameAnswer (rearranged : policy.Rearranged moved) (depth : Nat)
    {one other : Expression} (expressions : one.Rearranged other) :
    SameAnswer (Scene.value { policy, input, verifies? } depth one)
      (Scene.value { policy := moved, input, verifies? } depth other) := by
  have tests : ∀ predicate, Scene.holds? { policy, input, verifies? } predicate =
      Scene.holds? { policy := moved, input, verifies? } predicate := by
    intro predicate
    apply Scene.holds?_congr
    · rfl
    · intro operand _
      cases operand with
      | input path => rfl
      | binding name => simp only [Scene.resolve?, rearranged.bindings]
      | literal value => rfl
  induction depth generalizing one other with
  | zero =>
      apply Scene.sameAnswer_of_rules tests _ expressions
      intro name first second isFirst
      cases isFirst
  | succ depth induction =>
      apply Scene.sameAnswer_of_rules tests _ expressions
      intro name
      rcases rearranged.rule_cases name with ⟨undefined, _⟩ | ⟨body, new, defined, renewed, bodies⟩
      · intro first second isFirst
        rw [Scene.value_rule_of_undefined undefined] at isFirst
        cases isFirst
      · rw [Scene.value_rule_of_defined defined, Scene.value_rule_of_defined renewed]
        exact induction bodies

theorem Rearranged.sameAnswer_evaluate (rearranged : policy.Rearranged moved) :
    SameAnswer (policy.evaluate verifies? root input) (moved.evaluate verifies? root input) := by
  intro first second isFirst isSecond
  rcases rearranged.rule_cases root with ⟨undefined, _⟩ | ⟨body, new, defined, renewed, bodies⟩
  · rw [evaluate_of_undefined undefined] at isFirst
    cases isFirst
  · exact rearranged.sameAnswer maximumDepth bodies _ _ ((evaluate_eq_ok_iff defined).mp isFirst)
      ((evaluate_eq_ok_iff renewed).mp isSecond)

/-- The order of items never flips an answer: where a module and a rearranged one both have an
answer, it is the same. They are sound or not together, and where one of two sound modules has no
answer for a rule, the references went too deep in one of them, or a token could not be judged
because the clock shows less than a minute. -/
theorem item_order_never_flips (policy moved : Module) (rearranged : policy.Rearranged moved)
    (now : Seconds) (root : String) (input : Json) :
    let first := policy.evaluate (Token.verifies? now) root input
    let second := moved.evaluate (Token.verifies? now) root input
    (∀ answer other, first = .ok answer → second = .ok other → answer = other) ∧
      (policy.Sound ↔ moved.Sound) ∧
      (policy.Sound → policy.hasRule root = true →
        (∃ answer, first = .ok answer ∧ second = .ok answer) ∨
          (first = .error (.tooDeep root 32) ∨ second = .error (.tooDeep root 32)) ∨
          now.toInt < 60 ∧ (first = .error .noVerdict ∨ second = .error .noVerdict)) := by
  intro first second
  refine ⟨rearranged.sameAnswer_evaluate, rearranged.sound_iff, ?_⟩
  intro sound known
  have movedSound := rearranged.sound_iff.mp sound
  have movedKnown : moved.hasRule root = true :=
    (rearranged.defines_eq (.rule root)).symm.trans known
  rcases answer_or_obstacle sound known now with ⟨answer, isFirst⟩ | tooDeep | ⟨unjudged, early⟩
  · rcases answer_or_obstacle movedSound movedKnown now with
      ⟨other, isSecond⟩ | tooDeep | ⟨unjudged, early⟩
    · cases rearranged.sameAnswer_evaluate answer other isFirst isSecond
      exact .inl ⟨answer, isFirst, isSecond⟩
    · exact .inr (.inl (.inr tooDeep))
    · exact .inr (.inr ⟨early, .inr unjudged⟩)
  · exact .inr (.inl (.inl tooDeep))
  · exact .inr (.inr ⟨early, .inl unjudged⟩)

/-! A rule that asks a rule without end first, or last. -/

def lateTest : Expression := .test (.nonEmpty (.input "late"))

def opening (items : List Expression) : Module where
  package := "opening"
  bindings := .empty
  rules := (Register.empty.set "again" againBody).set "open" (.not (.all items))

theorem rearranged_opening :
    (opening [.rule "again", lateTest]).Rearranged (opening [lateTest, .rule "again"]) := by
  have stays : againBody.Rearranged againBody :=
    .any (.refl _) (.cons (.test _) (.cons (.rule _) .nil))
  have swapped : (Expression.not (.all [.rule "again", lateTest])).Rearranged
      (.not (.all [lateTest, .rule "again"])) :=
    .not (.all (.swap ..) (.cons (.test _) (.cons (.rule _) .nil)))
  refine ⟨rfl, rfl, ?_⟩
  intro name
  simp only [opening]
  by_cases isOpen : name = "open"
  · subst isOpen
    simpa using Option.Rel.some swapped
  · rw [Register.get?_set_of_ne _ isOpen, Register.get?_set_of_ne _ isOpen]
    by_cases isAgain : name = "again"
    · subst isAgain
      simpa using Option.Rel.some stays
    · rw [Register.get?_set_of_ne _ isAgain]
      exact .none

/-- If the rule without end is stopped, neither order says yes. If it is not, only the order that
asks it last comes to an answer. -/
theorem opening_keeps_answer :
    let first := (opening [.rule "again", lateTest]).evaluate (Token.verifies? 150) "open"
    let second := (opening [lateTest, .rule "again"]).evaluate (Token.verifies? 150) "open"
    let stopped := Json.object [("late", .bool true), ("stop", .bool true)]
    first stopped = .ok false ∧ second stopped ≠ .ok true ∧
      first (.object []) = .error (.tooDeep "open" 32) ∧ second (.object []) = .ok true := by
  intro first second stopped
  have isFalse : first stopped = .ok false := by cbv
  refine ⟨isFalse, ?_, by cbv, by cbv⟩
  intro isTrue
  cases (item_order_never_flips _ _ rearranged_opening 150 "open" stopped).1 _ _ isFalse isTrue

end Module

end TokenAuthority.Policy

import TokenAuthority.Policy.Evaluation

/-!
# What expressions mean

`Scene.Yields` says what an expression comes to, without a bound: a verdict, which is an answer
unless a token cannot be judged, and how many references are open at a time on the way there. The
evaluator gives the verdicts that need no more references than it may open, and no others.
-/

namespace TokenAuthority.Policy

namespace Scene

/-! ## Verdicts -/

/-- A predicate is true: its operands are defined, have the right shape, and say so. -/
def Holds (scene : Scene) : Predicate → Prop
  | .equal left right =>
      ∃ first second, scene.resolve? left = some first ∧ scene.resolve? right = some second ∧
        first.agrees second = true
  | .nonEmpty operand => ∃ value, scene.resolve? operand = some value ∧ isNonEmpty value = true
  | .contains collection value =>
      ∃ items element, scene.resolve? collection = some (.array items) ∧
        scene.resolve? value = some element ∧ ∃ item ∈ items, element.agrees item = true
  | .intersects collection values =>
      ∃ items elements, scene.resolve? collection = some (.array items) ∧
        scene.resolve? values = some (.array elements) ∧
        ∃ element ∈ elements, ∃ item ∈ items, element.agrees item = true
  | .verifies token key issuer =>
      ∃ signed armored name, scene.resolve? token = some (.string signed) ∧
        scene.resolve? key = some (.string armored) ∧
        scene.resolve? issuer = some (.string name) ∧
        scene.verifies? signed armored name = some true

def Undecided (scene : Scene) : Predicate → Prop
  | .verifies token key issuer =>
      ∃ signed armored name, scene.resolve? token = some (.string signed) ∧
        scene.resolve? key = some (.string armored) ∧
        scene.resolve? issuer = some (.string name) ∧
        scene.verifies? signed armored name = none
  | .equal .. | .nonEmpty .. | .contains .. | .intersects .. => False

/-- What is said of a predicate. One that neither holds nor is undecided is false. -/
def Judges (scene : Scene) (predicate : Predicate) : (verdict : Option Bool) → Prop
  | some true => scene.Holds predicate
  | some false => ¬scene.Holds predicate ∧ ¬scene.Undecided predicate
  | none => scene.Undecided predicate

/-- What an expression comes to, and how many references to rules are open at a time on the way.
Items are looked at from left to right, until one of them settles the matter. -/
inductive Yields (scene : Scene) : Expression → (verdict : Option Bool) → (depth : Nat) → Prop
  | constant (value : Bool) : Yields scene (.constant value) (some value) 0
  | test {predicate : Predicate} {verdict : Option Bool} (judges : scene.Judges predicate verdict) :
      Yields scene (.test predicate) verdict 0
  | not {inner : Expression} {verdict : Option Bool} {depth : Nat}
      (yields : Yields scene inner verdict depth) :
      Yields scene (.not inner) (verdict.map (!·)) depth
  | rule {name : String} {body : Expression} {verdict : Option Bool} {depth : Nat}
      (defined : scene.policy.rules.get? name = some body)
      (yields : Yields scene body verdict depth) : Yields scene (.rule name) verdict (depth + 1)
  | allDone : Yields scene (.all []) (some true) 0
  | allStop {item : Expression} {rest : List Expression} {verdict : Option Bool} {depth : Nat}
      (settles : verdict ≠ some true) (yields : Yields scene item verdict depth) :
      Yields scene (.all (item :: rest)) verdict depth
  | allNext {item : Expression} {rest : List Expression} {verdict : Option Bool}
      {depth further : Nat} (first : Yields scene item (some true) depth)
      (others : Yields scene (.all rest) verdict further) :
      Yields scene (.all (item :: rest)) verdict (max depth further)
  | anyDone : Yields scene (.any []) (some false) 0
  | anyStop {item : Expression} {rest : List Expression} {verdict : Option Bool} {depth : Nat}
      (settles : verdict ≠ some false) (yields : Yields scene item verdict depth) :
      Yields scene (.any (item :: rest)) verdict depth
  | anyNext {item : Expression} {rest : List Expression} {verdict : Option Bool}
      {depth further : Nat} (first : Yields scene item (some false) depth)
      (others : Yields scene (.any rest) verdict further) :
      Yields scene (.any (item :: rest)) verdict (max depth further)

end Scene

/-! ## Predicates -/

namespace Scene

variable {scene : Scene}

theorem holds?_eq_some_true_iff {predicate : Predicate} :
    scene.holds? predicate = some true ↔ scene.Holds predicate := by
  cases predicate with
  | equal left right =>
      simp only [holds?, Holds]
      split <;> simp_all
  | nonEmpty operand =>
      simp only [holds?, Holds]
      cases scene.resolve? operand <;> simp
  | contains collection value =>
      simp only [holds?, Holds]
      split <;> simp_all
  | intersects collection values =>
      simp only [holds?, Holds]
      split <;> simp_all
  | verifies token key issuer =>
      simp only [holds?, Holds]
      split <;> simp_all

theorem holds?_eq_none_iff {predicate : Predicate} :
    scene.holds? predicate = none ↔ scene.Undecided predicate := by
  cases predicate with
  | equal left right =>
      simp only [holds?, Undecided]
      split <;> simp
  | nonEmpty operand => simp [holds?, Undecided]
  | contains collection value =>
      simp only [holds?, Undecided]
      split <;> simp
  | intersects collection values =>
      simp only [holds?, Undecided]
      split <;> simp
  | verifies token key issuer =>
      simp only [holds?, Undecided]
      split <;> simp_all

theorem judges_iff {predicate : Predicate} {verdict : Option Bool} :
    scene.Judges predicate verdict ↔ scene.holds? predicate = verdict := by
  match verdict with
  | none => exact holds?_eq_none_iff.symm
  | some true => exact holds?_eq_some_true_iff.symm
  | some false =>
      simp only [Judges, ← holds?_eq_some_true_iff, ← holds?_eq_none_iff]
      rcases scene.holds? predicate with _ | _ | _ <;> simp

theorem holds?_congr {other : Scene} (sameJudge : scene.verifies? = other.verifies?)
    {predicate : Predicate}
    (same : ∀ operand, predicate.Uses operand → scene.resolve? operand = other.resolve? operand) :
    scene.holds? predicate = other.holds? predicate := by
  cases predicate with
  | equal left right => simp only [holds?, same _ (.equalLeft ..), same _ (.equalRight ..)]
  | nonEmpty operand => simp only [holds?, same _ (.nonEmpty _)]
  | contains collection value =>
      simp only [holds?, same _ (.containsCollection ..), same _ (.containsValue ..)]
  | intersects collection values =>
      simp only [holds?, same _ (.intersectsCollection ..), same _ (.intersectsValues ..)]
  | verifies token key issuer =>
      simp only [holds?, same _ (.verifiesToken ..), same _ (.verifiesKey ..),
        same _ (.verifiesIssuer ..), sameJudge]

/-! ## Equations of the evaluator -/

def told (verdict : Option Bool) : Except Obstacle Bool :=
  verdict.elim (.error .noVerdict) .ok

theorem told_injective : Function.Injective told := by
  intro left right equal
  rcases left with _ | _ <;> rcases right with _ | _ <;> simp_all [told]

theorem told_ne_tooDeep (verdict : Option Bool) : told verdict ≠ .error .tooDeep := by
  cases verdict <;> simp [told]

theorem told_not (verdict : Option Bool) : (told verdict).map (!·) = told (verdict.map (!·)) := by
  cases verdict <;> rfl

theorem eq_told_of_not {value : Except Obstacle Bool} {verdict : Option Bool}
    (given : value.map (!·) = told verdict) : value = told (verdict.map (!·)) := by
  cases value with
  | error obstacle =>
      cases verdict with
      | none =>
          cases given
          rfl
      | some answer => cases given
  | ok answer =>
      cases verdict with
      | none => cases given
      | some negated =>
          cases given
          simp [told]

theorem value_constant (depth : Nat) (value : Bool) :
    scene.value depth (.constant value) = told (some value) := rfl

theorem value_test (depth : Nat) (predicate : Predicate) :
    scene.value depth (.test predicate) = told (scene.holds? predicate) := rfl

theorem value_not (depth : Nat) (inner : Expression) :
    scene.value depth (.not inner) = (scene.value depth inner).map (!·) := rfl

theorem value_rule_zero (name : String) :
    scene.value 0 (.rule name) = .error .tooDeep := rfl

theorem value_rule_of_defined {name : String} {body : Expression}
    (defined : scene.policy.rules.get? name = some body) (depth : Nat) :
    scene.value (depth + 1) (.rule name) = scene.value depth body := by
  simp [value, Expression.meaning, rule, defined]

theorem value_rule_of_undefined {name : String}
    (undefined : scene.policy.rules.get? name = none) (depth : Nat) :
    scene.value (depth + 1) (.rule name) = .error (.unknownRule name) := by
  simp [value, Expression.meaning, rule, undefined]

theorem value_all_nil (depth : Nat) : scene.value depth (.all []) = told (some true) := rfl

theorem value_all_next {depth : Nat} {item : Expression}
    (first : scene.value depth item = told (some true)) (rest : List Expression) :
    scene.value depth (.all (item :: rest)) = scene.value depth (.all rest) := by
  change item.meaning scene.holds? (scene.rule depth) = .ok true at first
  simp [value, Expression.meaning, Expression.allOf, first]

theorem value_all_stop {depth : Nat} {item : Expression}
    (first : scene.value depth item ≠ told (some true)) (rest : List Expression) :
    scene.value depth (.all (item :: rest)) = scene.value depth item := by
  simp only [value, Expression.meaning, Expression.allOf]
  split
  · rename_i isTrue
    exact absurd isTrue first
  · rfl

theorem value_any_nil (depth : Nat) : scene.value depth (.any []) = told (some false) := rfl

theorem value_any_next {depth : Nat} {item : Expression}
    (first : scene.value depth item = told (some false)) (rest : List Expression) :
    scene.value depth (.any (item :: rest)) = scene.value depth (.any rest) := by
  change item.meaning scene.holds? (scene.rule depth) = .ok false at first
  simp [value, Expression.meaning, Expression.anyOf, first]

theorem value_any_stop {depth : Nat} {item : Expression}
    (first : scene.value depth item ≠ told (some false)) (rest : List Expression) :
    scene.value depth (.any (item :: rest)) = scene.value depth item := by
  simp only [value, Expression.meaning, Expression.anyOf]
  split
  · rename_i isFalse
    exact absurd isFalse first
  · rfl

end Scene

/-- Items that are looked at as long as they come to an answer: `all` of them as long as it is yes,
`any` as long as it is no. -/
def Expression.series : (goesOn : Bool) → (items : List Expression) → Expression
  | true, items => .all items
  | false, items => .any items

namespace Scene

variable {scene : Scene}

theorem value_series_nil (goesOn : Bool) (depth : Nat) :
    scene.value depth (.series goesOn []) = .ok goesOn := by
  cases goesOn <;> rfl

theorem value_series_next {goesOn : Bool} {depth : Nat} {item : Expression}
    (first : scene.value depth item = .ok goesOn) (rest : List Expression) :
    scene.value depth (.series goesOn (item :: rest)) =
      scene.value depth (.series goesOn rest) := by
  cases goesOn with
  | true => exact value_all_next first rest
  | false => exact value_any_next first rest

theorem value_series_stop {goesOn : Bool} {depth : Nat} {item : Expression}
    (first : scene.value depth item ≠ .ok goesOn) (rest : List Expression) :
    scene.value depth (.series goesOn (item :: rest)) = scene.value depth item := by
  cases goesOn with
  | true => exact value_all_stop first rest
  | false => exact value_any_stop first rest

end Scene

/-- Induction that goes through lists of items one by one, as evaluation does. -/
@[elab_as_elim]
theorem Expression.itemInduction {motive : Expression → Prop}
    (constant : ∀ value, motive (.constant value)) (test : ∀ predicate, motive (.test predicate))
    (rule : ∀ name, motive (.rule name)) (not : ∀ inner, motive inner → motive (.not inner))
    (allNil : motive (.all []))
    (allCons : ∀ item rest, motive item → motive (.all rest) → motive (.all (item :: rest)))
    (anyNil : motive (.any []))
    (anyCons : ∀ item rest, motive item → motive (.any rest) → motive (.any (item :: rest))) :
    ∀ expression, motive expression
  | .constant value => constant value
  | .test predicate => test predicate
  | .rule name => rule name
  | .not inner =>
      not inner (itemInduction constant test rule not allNil allCons anyNil anyCons inner)
  | .all [] => allNil
  | .all (item :: rest) =>
      allCons item rest
        (itemInduction constant test rule not allNil allCons anyNil anyCons item)
        (itemInduction constant test rule not allNil allCons anyNil anyCons (.all rest))
  | .any [] => anyNil
  | .any (item :: rest) =>
      anyCons item rest
        (itemInduction constant test rule not allNil allCons anyNil anyCons item)
        (itemInduction constant test rule not allNil allCons anyNil anyCons (.any rest))

@[elab_as_elim]
theorem Expression.childInduction {motive : Expression → Prop}
    (step : ∀ expression : Expression, (∀ child ∈ expression.children, motive child) →
      motive expression)
    (expression : Expression) : motive expression := by
  -- Items are taken one by one, so what holds of the items is carried along with what holds of
  -- the list.
  suffices both : motive expression ∧ ∀ child ∈ expression.children, motive child from both.1
  have whole : ∀ other : Expression, (∀ child ∈ other.children, motive child) →
      motive other ∧ ∀ child ∈ other.children, motive child :=
    fun other children => ⟨step other children, children⟩
  induction expression using Expression.itemInduction with
  | constant value => exact whole _ (by simp [children])
  | test predicate => exact whole _ (by simp [children])
  | rule name => exact whole _ (by simp [children])
  | not inner induction => exact whole _ (by simp [children, induction.1])
  | allNil => exact whole _ (by simp [children])
  | allCons item rest first others =>
      exact whole _ (List.forall_mem_cons.mpr ⟨first.1, others.2⟩)
  | anyNil => exact whole _ (by simp [children])
  | anyCons item rest first others =>
      exact whole _ (List.forall_mem_cons.mpr ⟨first.1, others.2⟩)

/-! ## Agreement -/

namespace Scene

variable {scene : Scene}

theorem Yields.value_eq {expression : Expression} {verdict : Option Bool} {needed : Nat}
    (yields : scene.Yields expression verdict needed) {depth : Nat} (enough : needed ≤ depth) :
    scene.value depth expression = told verdict := by
  induction yields generalizing depth with
  | constant value => rfl
  | test judges => rw [value_test, judges_iff.mp judges]
  | not yields induction => rw [value_not, induction enough, told_not]
  | rule defined yields induction =>
      have room : ∃ room, depth = room + 1 := ⟨depth - 1, by omega⟩
      rcases room with ⟨room, rfl⟩
      rw [value_rule_of_defined defined]
      exact induction (by omega)
  | allDone => rfl
  | allStop settles yields induction =>
      have first := induction enough
      rw [value_all_stop (first ▸ told_injective.ne settles), first]
  | allNext first others firstInduction othersInduction =>
      have parts := Nat.max_le.mp enough
      rw [value_all_next (firstInduction parts.1), othersInduction parts.2]
  | anyDone => rfl
  | anyStop settles yields induction =>
      have first := induction enough
      rw [value_any_stop (first ▸ told_injective.ne settles), first]
  | anyNext first others firstInduction othersInduction =>
      have parts := Nat.max_le.mp enough
      rw [value_any_next (firstInduction parts.1), othersInduction parts.2]

theorem Yields.isSome (decided : ∀ token key issuer, scene.verifies? token key issuer ≠ none)
    {expression : Expression} {verdict : Option Bool} {depth : Nat}
    (yields : scene.Yields expression verdict depth) : verdict ≠ none := by
  induction yields with
  | constant value => simp
  | @test predicate verdict judges =>
      rintro rfl
      cases predicate with
      | verifies token key issuer =>
          rcases judges with ⟨signed, armored, name, _, _, _, untold⟩
          exact decided signed armored name untold
      | _ => exact judges
  | not yields induction => simpa using induction
  | rule defined yields induction => exact induction
  | allDone => simp
  | allStop settles yields induction => exact induction
  | allNext first others _ induction => exact induction
  | anyDone => simp
  | anyStop settles yields induction => exact induction
  | anyNext first others _ induction => exact induction

private theorem yields_of_value_of_rules {depth : Nat}
    (rules : ∀ name verdict, scene.value depth (.rule name) = told verdict →
      ∃ needed ≤ depth, scene.Yields (.rule name) verdict needed)
    {expression : Expression} {verdict : Option Bool}
    (given : scene.value depth expression = told verdict) :
    ∃ needed ≤ depth, scene.Yields expression verdict needed := by
  induction expression using Expression.itemInduction generalizing verdict with
  | constant value =>
      rw [value_constant] at given
      cases told_injective given
      exact ⟨0, Nat.zero_le _, .constant value⟩
  | test predicate =>
      rw [value_test] at given
      exact ⟨0, Nat.zero_le _, .test (judges_iff.mpr (told_injective given))⟩
  | rule name => exact rules name verdict given
  | not inner induction =>
      have innerGiven : scene.value depth inner = told (verdict.map (!·)) := by
        rw [value_not] at given
        exact eq_told_of_not given
      rcases induction innerGiven with ⟨needed, enough, yields⟩
      have twice : (verdict.map (!·)).map (!·) = verdict := by cases verdict <;> simp
      exact ⟨needed, enough, twice ▸ yields.not⟩
  | allNil =>
      rw [value_all_nil] at given
      cases told_injective given
      exact ⟨0, Nat.zero_le _, .allDone⟩
  | allCons item rest first others =>
      by_cases isTrue : scene.value depth item = told (some true)
      · rw [value_all_next isTrue] at given
        rcases first isTrue with ⟨needed, enough, yields⟩
        rcases others given with ⟨further, enoughFurther, yieldsRest⟩
        exact ⟨max needed further, Nat.max_le.mpr ⟨enough, enoughFurther⟩,
          .allNext yields yieldsRest⟩
      · rw [value_all_stop isTrue] at given
        rcases first given with ⟨needed, enough, yields⟩
        refine ⟨needed, enough, .allStop ?_ yields⟩
        rintro rfl
        exact isTrue given
  | anyNil =>
      rw [value_any_nil] at given
      cases told_injective given
      exact ⟨0, Nat.zero_le _, .anyDone⟩
  | anyCons item rest first others =>
      by_cases isFalse : scene.value depth item = told (some false)
      · rw [value_any_next isFalse] at given
        rcases first isFalse with ⟨needed, enough, yields⟩
        rcases others given with ⟨further, enoughFurther, yieldsRest⟩
        exact ⟨max needed further, Nat.max_le.mpr ⟨enough, enoughFurther⟩,
          .anyNext yields yieldsRest⟩
      · rw [value_any_stop isFalse] at given
        rcases first given with ⟨needed, enough, yields⟩
        refine ⟨needed, enough, .anyStop ?_ yields⟩
        rintro rfl
        exact isFalse given

theorem yields_of_value {depth : Nat} {expression : Expression} {verdict : Option Bool}
    (given : scene.value depth expression = told verdict) :
    ∃ needed ≤ depth, scene.Yields expression verdict needed := by
  induction depth generalizing expression verdict with
  | zero =>
      apply yields_of_value_of_rules _ given
      intro name verdict impossible
      rw [value_rule_zero] at impossible
      cases verdict <;> cases impossible
  | succ depth induction =>
      apply yields_of_value_of_rules _ given
      intro name verdict given
      cases defined : scene.policy.rules.get? name with
      | none =>
          rw [value_rule_of_undefined defined] at given
          cases verdict <;> cases given
      | some body =>
          rw [value_rule_of_defined defined] at given
          rcases induction given with ⟨needed, enough, yields⟩
          exact ⟨needed + 1, Nat.succ_le_succ enough, .rule defined yields⟩

theorem value_eq_told_iff {depth : Nat} {expression : Expression} {verdict : Option Bool} :
    scene.value depth expression = told verdict ↔
      ∃ needed ≤ depth, scene.Yields expression verdict needed := by
  constructor
  · exact yields_of_value
  · rintro ⟨needed, enough, yields⟩
    exact yields.value_eq enough

/-! ## Obstacles -/

theorem obstacle_at_rule {depth : Nat} {expression : Expression} {obstacle : Obstacle}
    (failed : scene.value depth expression = .error obstacle) (other : obstacle ≠ .noVerdict) :
    ∃ name, expression.Mentions (.rule name) ∧
      scene.value depth (.rule name) = .error obstacle := by
  induction expression using Expression.itemInduction with
  | constant value => cases failed
  | test predicate =>
      rw [value_test] at failed
      cases verdict : scene.holds? predicate <;> rw [verdict] at failed <;> cases failed
      exact absurd rfl other
  | rule name => exact ⟨name, .rule name, failed⟩
  | not inner induction =>
      have innerFailed : scene.value depth inner = .error obstacle := by
        rw [value_not] at failed
        cases given : scene.value depth inner <;> rw [given] at failed <;> cases failed
        rfl
      rcases induction innerFailed with ⟨name, mentions, atRule⟩
      exact ⟨name, .not mentions, atRule⟩
  | allNil => cases failed
  | allCons item rest first others =>
      -- A list fails at its first item or, if that lets it go on, behind it.
      by_cases isTrue : scene.value depth item = told (some true)
      · rw [value_all_next isTrue] at failed
        rcases others failed with ⟨name, mentions, atRule⟩
        exact ⟨name, mentions.all_cons item, atRule⟩
      · rw [value_all_stop isTrue] at failed
        rcases first failed with ⟨name, mentions, atRule⟩
        exact ⟨name, .all List.mem_cons_self mentions, atRule⟩
  | anyNil => cases failed
  | anyCons item rest first others =>
      by_cases isFalse : scene.value depth item = told (some false)
      · rw [value_any_next isFalse] at failed
        rcases others failed with ⟨name, mentions, atRule⟩
        exact ⟨name, mentions.any_cons item, atRule⟩
      · rw [value_any_stop isFalse] at failed
        rcases first failed with ⟨name, mentions, atRule⟩
        exact ⟨name, .any List.mem_cons_self mentions, atRule⟩

end Scene

end TokenAuthority.Policy

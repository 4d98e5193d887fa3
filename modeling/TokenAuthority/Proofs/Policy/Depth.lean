import TokenAuthority.Proofs.Policy.Semantics

/-!
# How deep references go

Evaluation fails for depth only along a chain of references, each made in the body of the rule that
the one before names, with one reference more than may be open. The other way round it fails
whenever it cannot avoid such a chain.
-/

namespace TokenAuthority.Policy

namespace Module

variable {policy : Module}

/-- Rules that are open one inside the other: the first is led to by an expression, and each other
by the body of the one before. -/
def Nested (policy : Module) (leads : Expression → String → Prop) :
    Expression → List String → Prop
  | _, [] => True
  | expression, name :: inner =>
      leads expression name ∧
        ∃ body, policy.rules.get? name = some body ∧ policy.Nested leads body inner

/-- A chain of references that stand in the text of the module. -/
def Chain (policy : Module) : Expression → List String → Prop :=
  policy.Nested fun expression name => expression.Mentions (.rule name)

def Knows (policy : Module) (expression : Expression) : Prop :=
  ∀ reference, expression.Mentions reference → policy.defines reference = true

theorem Sound.knows (sound : policy.Sound) {name : String} {body : Expression}
    (defined : policy.rules.get? name = some body) : policy.Knows body :=
  fun reference mentions => sound reference ⟨_, Entries.mem_of_get? defined, mentions⟩

theorem Knows.rule {expression : Expression} (knows : policy.Knows expression) {name : String}
    (mentions : expression.Mentions (.rule name)) : ∃ body, policy.rules.get? name = some body :=
  Option.isSome_iff_exists.mp (knows _ mentions)

end Module

namespace Scene

variable {scene : Scene}

/-! ## Chains that are met -/

theorem value_ne_unknownRule (sound : scene.policy.Sound) {depth : Nat} {expression : Expression}
    (knows : scene.policy.Knows expression) (name : String) :
    scene.value depth expression ≠ .error (.unknownRule name) := by
  induction depth generalizing expression with
  | zero =>
      intro failed
      rcases obstacle_at_rule failed (by simp) with ⟨inner, _, atRule⟩
      rw [value_rule_zero] at atRule
      cases atRule
  | succ depth induction =>
      intro failed
      rcases obstacle_at_rule failed (by simp) with ⟨inner, mentions, atRule⟩
      rcases knows.rule mentions with ⟨body, defined⟩
      rw [value_rule_of_defined defined] at atRule
      exact induction (sound.knows defined) atRule

theorem chain_of_tooDeep (sound : scene.policy.Sound) {depth : Nat} {expression : Expression}
    (knows : scene.policy.Knows expression)
    (failed : scene.value depth expression = .error .tooDeep) :
    ∃ names, names.length = depth + 1 ∧ scene.policy.Chain expression names := by
  induction depth generalizing expression with
  | zero =>
      rcases obstacle_at_rule failed (by simp) with ⟨name, mentions, _⟩
      rcases knows.rule mentions with ⟨body, defined⟩
      exact ⟨[name], rfl, mentions, body, defined, trivial⟩
  | succ depth induction =>
      rcases obstacle_at_rule failed (by simp) with ⟨name, mentions, atRule⟩
      rcases knows.rule mentions with ⟨body, defined⟩
      rw [value_rule_of_defined defined] at atRule
      rcases induction (sound.knows defined) atRule with ⟨names, length, chain⟩
      exact ⟨name :: names, by simp [length], mentions, body, defined, chain⟩

/-! ## Chains that cannot be avoided -/

theorem value_cases (sound : scene.policy.Sound) (depth : Nat) {expression : Expression}
    (knows : scene.policy.Knows expression) :
    (∃ verdict, scene.value depth expression = told verdict) ∨
      scene.value depth expression = .error .tooDeep := by
  cases given : scene.value depth expression with
  | ok answer => exact .inl ⟨some answer, rfl⟩
  | error obstacle =>
      cases obstacle with
      | tooDeep => exact .inr rfl
      | noVerdict => exact .inl ⟨none, rfl⟩
      | unknownRule name => exact absurd given (value_ne_unknownRule sound knows name)

theorem Yields.unique {expression : Expression} {left right : Option Bool}
    {leftDepth rightDepth : Nat}
    (leftYields : scene.Yields expression left leftDepth)
    (rightYields : scene.Yields expression right rightDepth) : left = right := by
  apply told_injective
  rw [← leftYields.value_eq (Nat.le_max_left leftDepth rightDepth)]
  exact rightYields.value_eq (Nat.le_max_right leftDepth rightDepth)

/-- Evaluation of the expression comes to a reference to the rule: everything in front of it lets
evaluation go on. -/
inductive Opens (scene : Scene) : Expression → String → Prop
  | rule (name : String) : Opens scene (.rule name) name
  | not {inner : Expression} {name : String} (opens : Opens scene inner name) :
      Opens scene (.not inner) name
  | allHere {item : Expression} {rest : List Expression} {name : String}
      (opens : Opens scene item name) : Opens scene (.all (item :: rest)) name
  | allLater {item : Expression} {rest : List Expression} {name : String} {depth : Nat}
      (passes : scene.Yields item (some true) depth) (opens : Opens scene (.all rest) name) :
      Opens scene (.all (item :: rest)) name
  | anyHere {item : Expression} {rest : List Expression} {name : String}
      (opens : Opens scene item name) : Opens scene (.any (item :: rest)) name
  | anyLater {item : Expression} {rest : List Expression} {name : String} {depth : Nat}
      (passes : scene.Yields item (some false) depth) (opens : Opens scene (.any rest) name) :
      Opens scene (.any (item :: rest)) name

theorem Yields.value_cases (sound : scene.policy.Sound) (depth : Nat) {expression : Expression}
    {verdict : Option Bool} {needed : Nat} (knows : scene.policy.Knows expression)
    (yields : scene.Yields expression verdict needed) :
    scene.value depth expression = told verdict ∨
      scene.value depth expression = .error .tooDeep := by
  rcases Scene.value_cases sound depth knows with ⟨other, given⟩ | failed
  · rcases yields_of_value given with ⟨_, _, otherYields⟩
    exact .inl (yields.unique otherYields ▸ given)
  · exact .inr failed

theorem Opens.value_eq_tooDeep (sound : scene.policy.Sound) {depth : Nat} {expression : Expression}
    {name : String} (knows : scene.policy.Knows expression) (opens : scene.Opens expression name)
    (failed : scene.value depth (.rule name) = .error .tooDeep) :
    scene.value depth expression = .error .tooDeep := by
  induction opens with
  | rule name => exact failed
  | not opens induction =>
      rw [value_not, induction (fun _ mentions => knows _ (.not mentions)) failed]
      rfl
  | allHere opens induction =>
      have first := induction
        (fun _ mentions => knows _ (.all List.mem_cons_self mentions)) failed
      rw [value_all_stop (first ▸ (told_ne_tooDeep _).symm), first]
  | allLater passes opens induction =>
      have others := induction (fun _ mentions => knows _ (mentions.all_cons _)) failed
      rcases passes.value_cases sound depth
        (fun _ mentions => knows _ (.all List.mem_cons_self mentions)) with isTrue | first
      · rw [value_all_next isTrue, others]
      · rw [value_all_stop (first ▸ (told_ne_tooDeep _).symm), first]
  | anyHere opens induction =>
      have first := induction
        (fun _ mentions => knows _ (.any List.mem_cons_self mentions)) failed
      rw [value_any_stop (first ▸ (told_ne_tooDeep _).symm), first]
  | anyLater passes opens induction =>
      have others := induction (fun _ mentions => knows _ (mentions.any_cons _)) failed
      rcases passes.value_cases sound depth
        (fun _ mentions => knows _ (.any List.mem_cons_self mentions)) with isFalse | first
      · rw [value_any_next isFalse, others]
      · rw [value_any_stop (first ▸ (told_ne_tooDeep _).symm), first]

theorem tooDeep_of_nested (sound : scene.policy.Sound) {depth : Nat} {expression : Expression}
    (knows : scene.policy.Knows expression) {names : List String}
    (nested : scene.policy.Nested scene.Opens expression names)
    (length : names.length = depth + 1) :
    scene.value depth expression = .error .tooDeep := by
  induction names generalizing depth expression with
  | nil => cases length
  | cons name inner induction =>
      rcases nested with ⟨opens, body, defined, nested⟩
      apply opens.value_eq_tooDeep sound knows
      cases depth with
      | zero => rfl
      | succ depth =>
          rw [value_rule_of_defined defined]
          exact induction (sound.knows defined) nested (Nat.succ.inj length)

end Scene

end TokenAuthority.Policy

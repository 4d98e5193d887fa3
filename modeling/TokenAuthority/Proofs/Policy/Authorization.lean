import TokenAuthority.Proofs.Policy.Builtin
import TokenAuthority.Proofs.Policy.Evaluation

/-!
# The built-in authorization module

It loads, and it has four rules, each of which says of claims and a target what `AccessRule.allows`
says. None of them looks at a token, and none comes near the bound on open references.
-/

namespace TokenAuthority.Policy

/-- The rules of the built-in module. -/
inductive AccessRule where
  | anyRole
  | adminOnly
  | userOnly
  | adminOrSubject
  deriving DecidableEq, Repr

namespace AccessRule

def all : List AccessRule :=
  [.anyRole, .adminOnly, .userOnly, .adminOrSubject]

def name : AccessRule → String
  | .anyRole => "rule_any"
  | .adminOnly => "rule_admin_only"
  | .userOnly => "rule_user_only"
  | .adminOrSubject => "rule_admin_or_subject"

def body : AccessRule → Expression
  | .anyRole => .test (.intersects (.input "roles") (.binding "role_all"))
  | .adminOnly => .test (.contains (.input "roles") (.binding "role_admin"))
  | .userOnly => .test (.contains (.input "roles") (.binding "role_user"))
  | .adminOrSubject =>
      .any [.rule adminOnly.name,
        .all [.rule anyRole.name, .test (.nonEmpty (.input "subject")),
          .test (.equal (.input "subject") (.input "user_id"))]]

def allows (claims : Claims) (target : Uuid) : AccessRule → Bool
  | .anyRole => claims.hasRole .admin || claims.hasRole .user
  | .adminOnly => claims.hasRole .admin
  | .userOnly => claims.hasRole .user
  | .adminOrSubject =>
      claims.hasRole .admin ||
        ((claims.hasRole .admin || claims.hasRole .user) && !claims.subject.isEmpty &&
          claims.subject == target.toString)

theorem mem_all (rule : AccessRule) : rule ∈ all := by
  cases rule <;> decide

theorem exists_iff {holds : AccessRule → Prop} :
    (∃ rule, holds rule) ↔
      holds .anyRole ∨ holds .adminOnly ∨ holds .userOnly ∨ holds .adminOrSubject := by
  constructor
  · rintro ⟨_ | _ | _ | _, held⟩ <;> simp [held]
  · rintro (held | held | held | held) <;> exact ⟨_, held⟩

theorem name_injective : Function.Injective name := by
  intro left right same
  cases left <;> cases right <;> first | rfl | exact absurd same (by decide)

end AccessRule

def authorization : Module where
  package := "gatekeeper.authorization"
  bindings := Register.ofList
    [("role_admin", .string Role.admin.name), ("role_user", .string Role.user.name),
     ("role_all", .array [.string Role.admin.name, .string Role.user.name])]
  rules := Register.ofList (AccessRule.all.map fun rule => (rule.name, rule.body))

/-! ## Loading -/

set_option maxRecDepth 8000 in
theorem spelled_authorization : Module.spelled? authorizationSource = some authorization := by
  apply Module.spelled?_eq_some
  · iterate 11
      apply toList_append
      case second => exact toList_literal rfl
    exact toList_literal rfl
  · cbv

theorem parse_authorization : Module.parse authorizationSource = .ok authorization := by
  have checked : authorization.checked = .ok authorization := by
    rw [Module.checked_eq_ok_iff, Module.sound_iff_allDefined, ← Module.looseReference?_eq_none_iff]
    refine ⟨rfl, ?_⟩
    cbv
  rw [Module.parse, spelled_authorization]
  exact checked

/-! ## Evaluation -/

theorem lookup?_authorizationInput (claims : Claims) (target : Uuid) (rule : String) :
    let input := Token.Engine.authorizationInput claims target rule
    lookup? input "roles" = some (.array (claims.roles.map .string)) ∧
      lookup? input "subject" = some (.string claims.subject) ∧
      lookup? input "user_id" = some (.string target.toString) := by
  refine ⟨?_, ?_, ?_⟩
  · cbv
  · cbv
  · cbv

theorem binding_authorization :
    authorization.bindings.get? "role_admin" = some (.string Role.admin.name) ∧
      authorization.bindings.get? "role_user" = some (.string Role.user.name) ∧
      authorization.bindings.get? "role_all" =
        some (.array [.string Role.admin.name, .string Role.user.name]) := by
  refine ⟨?_, ?_, ?_⟩
  · cbv
  · cbv
  · cbv

theorem rule_authorization (rule : AccessRule) :
    authorization.rules.get? rule.name = some rule.body := by
  cases rule <;> cbv

theorem rule_authorization_of_unknown {name : String}
    (unknown : ∀ rule, name ≠ AccessRule.name rule) :
    authorization.rules.get? name = none := by
  simp only [authorization, Register.ofList, AccessRule.all, List.map_cons, List.map_nil,
    List.foldl_cons, List.foldl_nil, Register.get?_set_of_ne _ (unknown _)]
  rfl

theorem agrees_string (left right : String) :
    (Json.string left).agrees (.string right) = (left == right) := by
  simp [Json.agrees, Json.unsignedZeros, Bool.beq_eq_decide_eq]

theorem any_agrees_role (claims : Claims) (role : Role) :
    (claims.roles.map Json.string).any (Json.string role.name).agrees = claims.hasRole role := by
  have same : ∀ name : String, (role.name == name) = (name == role.name) := fun name => BEq.comm
  simp only [List.any_map, Function.comp_def, agrees_string, Claims.hasRole, same]

namespace Scene

variable {scene : Scene} {depth : Nat} {item : Expression} {rest : List Expression}
  {first others : Bool}

theorem value_all_cons (isFirst : scene.value depth item = told (some first))
    (areOthers : scene.value depth (.all rest) = told (some others)) :
    scene.value depth (.all (item :: rest)) = told (some (first && others)) := by
  cases first with
  | true => rw [value_all_next isFirst, areOthers, Bool.true_and]
  | false => rw [value_all_stop (isFirst ▸ told_injective.ne (by simp)), isFirst, Bool.false_and]

theorem value_any_cons (isFirst : scene.value depth item = told (some first))
    (areOthers : scene.value depth (.any rest) = told (some others)) :
    scene.value depth (.any (item :: rest)) = told (some (first || others)) := by
  cases first with
  | true => rw [value_any_stop (isFirst ▸ told_injective.ne (by simp)), isFirst, Bool.true_or]
  | false => rw [value_any_next isFirst, areOthers, Bool.false_or]

end Scene

def authorizationScene (claims : Claims) (target : Uuid) (name : String)
    (verifies? : (token key issuer : String) → Option Bool) : Scene where
  policy := authorization
  input := Token.Engine.authorizationInput claims target name
  verifies? := verifies?

section

variable {claims : Claims} {target : Uuid} {name : String}
  {verifies? : (token key issuer : String) → Option Bool}

theorem value_roleRule {rule : AccessRule} (simple : rule ≠ .adminOrSubject) (depth : Nat) :
    (authorizationScene claims target name verifies?).value depth rule.body =
      Scene.told (some (rule.allows claims target)) := by
  rcases lookup?_authorizationInput claims target name with ⟨roles, _, _⟩
  rcases binding_authorization with ⟨admin, user, both⟩
  cases rule with
  | anyRole =>
      simp only [AccessRule.body, Scene.value_test, Scene.holds?, Scene.resolve?,
        authorizationScene, roles, both, List.any_cons, List.any_nil, any_agrees_role,
        AccessRule.allows, Bool.or_false]
  | adminOnly =>
      simp only [AccessRule.body, Scene.value_test, Scene.holds?, Scene.resolve?,
        authorizationScene, roles, admin, any_agrees_role, AccessRule.allows]
  | userOnly =>
      simp only [AccessRule.body, Scene.value_test, Scene.holds?, Scene.resolve?,
        authorizationScene, roles, user, any_agrees_role, AccessRule.allows]
  | adminOrSubject => exact absurd rfl simple

theorem value_body (rule : AccessRule) (depth : Nat) :
    (authorizationScene claims target name verifies?).value (depth + 1) rule.body =
      Scene.told (some (rule.allows claims target)) := by
  by_cases simple : rule ≠ .adminOrSubject
  · exact value_roleRule simple (depth + 1)
  -- This rule alone asks others, for which one reference more has to be open.
  cases Decidable.not_not.mp simple
  rcases lookup?_authorizationInput claims target name with ⟨_, subject, userId⟩
  have opened : ∀ other : AccessRule, other ≠ .adminOrSubject →
      (authorizationScene claims target name verifies?).value (depth + 1) (.rule other.name) =
        Scene.told (some (other.allows claims target)) := by
    intro other isSimple
    rw [Scene.value_rule_of_defined (rule_authorization other)]
    exact value_roleRule isSimple depth
  have isNonEmpty : (authorizationScene claims target name verifies?).value (depth + 1)
      (.test (.nonEmpty (.input "subject"))) = Scene.told (some !claims.subject.isEmpty) := by
    simp only [Scene.value_test, Scene.holds?, Scene.resolve?, authorizationScene, subject,
      Option.any_some, isNonEmpty]
  have isTarget : (authorizationScene claims target name verifies?).value (depth + 1)
      (.test (.equal (.input "subject") (.input "user_id"))) =
        Scene.told (some (claims.subject == target.toString)) := by
    simp only [Scene.value_test, Scene.holds?, Scene.resolve?, authorizationScene, subject, userId,
      agrees_string]
  have onItself := Scene.value_all_cons (opened .anyRole (by decide))
    (Scene.value_all_cons isNonEmpty
      (Scene.value_all_cons isTarget (Scene.value_all_nil (depth + 1))))
  have decided := Scene.value_any_cons (opened .adminOnly (by decide))
    (Scene.value_any_cons onItself (Scene.value_any_nil (depth + 1)))
  simpa only [AccessRule.body, AccessRule.allows, Bool.and_true, Bool.or_false,
    Bool.and_assoc] using decided

end

theorem evaluate_authorization (rule : AccessRule) (claims : Claims) (target : Uuid) (name : String)
    (verifies? : (token key issuer : String) → Option Bool) :
    authorization.evaluate verifies? rule.name
        (Token.Engine.authorizationInput claims target name) =
      .ok (rule.allows claims target) := by
  rw [Module.evaluate_eq_ok_iff (rule_authorization rule)]
  exact value_body rule 31

end TokenAuthority.Policy

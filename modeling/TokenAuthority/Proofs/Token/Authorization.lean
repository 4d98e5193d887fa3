import TokenAuthority.Proofs.Policy.Authorization
import TokenAuthority.Proofs.Token.Authentication

/-!
# What a bearer may do

Under the built-in policies an engine permits what one of the four rules allows, to bearers that
have a role. Everything else is refused: as unauthorized, or because there is no such rule.
-/

namespace TokenAuthority.Token.Engine

open Policy (AccessRule PolicySet)

variable {engine : Engine} {now : Seconds} {claims : Claims} {target : Uuid} {name : String}

theorem ofSources_eq (authentication authorization : String) :
    PolicySet.ofSources authentication authorization = (do
      return {
        authentication := ← (Policy.Module.parse authentication).mapError .load
        authorization := ← (Policy.Module.parse authorization).mapError .load }) := rfl

theorem builtin_eq : PolicySet.builtin =
    .ok { authentication := Policy.authentication, authorization := Policy.authorization } := by
  rw [PolicySet.builtin, ofSources_eq, Policy.parse_authentication, Policy.parse_authorization]
  rfl

theorem authorization_of_builtin (builtin : PolicySet.builtin = .ok engine.policies) :
    engine.policies.authorization = Policy.authorization := by
  rw [builtin_eq] at builtin
  rw [← Except.ok.inj builtin]

theorem authorize_rule (builtin : PolicySet.builtin = .ok engine.policies)
    (hasRoles : claims.roles ≠ []) (rule : AccessRule) :
    engine.authorize now claims target rule.name =
      if rule.allows claims target then .ok ()
      else .error (.unauthorized claims.roles rule.name) := by
  have notEmpty : claims.roles.isEmpty = false := by simpa using hasRoles
  rw [authorize, authorization_of_builtin builtin, Policy.evaluate_authorization]
  simp only [notEmpty, Bool.false_eq_true, if_false]
  cases rule.allows claims target <;> rfl

theorem authorize_of_noRoles (noRoles : claims.roles = []) :
    engine.authorize now claims target name = .error (.unauthorized claims.roles name) := by
  simp [authorize, noRoles]

theorem authorize_of_unknown (builtin : PolicySet.builtin = .ok engine.policies)
    (hasRoles : claims.roles ≠ []) (unknown : ∀ rule, name ≠ AccessRule.name rule) :
    engine.authorize now claims target name =
      .error (.policy (.unknownRule "gatekeeper.authorization" name)) := by
  have notEmpty : claims.roles.isEmpty = false := by simpa using hasRoles
  rw [authorize, authorization_of_builtin builtin,
    Policy.Module.evaluate_of_undefined (Policy.rule_authorization_of_unknown unknown)]
  simp only [notEmpty, Bool.false_eq_true, if_false]
  rfl

theorem authorize_eq_ok_iff (builtin : PolicySet.builtin = .ok engine.policies) :
    engine.authorize now claims target name = .ok () ↔
      claims.roles ≠ [] ∧
        ∃ rule : AccessRule, name = rule.name ∧ rule.allows claims target = true := by
  by_cases noRoles : claims.roles = []
  · simp [authorize_of_noRoles noRoles, noRoles]
  by_cases known : ∃ rule : AccessRule, name = rule.name
  · rcases known with ⟨rule, rfl⟩
    have single : (∃ other : AccessRule, rule.name = other.name ∧
        other.allows claims target = true) ↔ rule.allows claims target = true := by
      constructor
      · rintro ⟨other, same, allowed⟩
        exact AccessRule.name_injective same ▸ allowed
      · intro allowed
        exact ⟨rule, rfl, allowed⟩
    rw [authorize_rule builtin noRoles, single]
    cases rule.allows claims target <;> simp [noRoles]
  · have unknown : ∀ rule, name ≠ AccessRule.name rule := fun rule same => known ⟨rule, same⟩
    rw [authorize_of_unknown builtin noRoles unknown]
    simp [unknown]

theorem authorize_eq_error (builtin : PolicySet.builtin = .ok engine.policies)
    (refused : engine.authorize now claims target name ≠ .ok ()) :
    engine.authorize now claims target name =
      if claims.roles = [] ∨ name ∈ AccessRule.all.map AccessRule.name then
        .error (.unauthorized claims.roles name)
      else .error (.policy (.unknownRule "gatekeeper.authorization" name)) := by
  by_cases noRoles : claims.roles = []
  · rw [authorize_of_noRoles noRoles, if_pos (.inl noRoles)]
  by_cases known : name ∈ AccessRule.all.map AccessRule.name
  · rw [if_pos (.inr known)]
    rcases List.mem_map.mp known with ⟨rule, _, rfl⟩
    rw [authorize_rule builtin noRoles] at refused ⊢
    split at refused
    · exact absurd rfl refused
    · rename_i notAllowed
      rw [if_neg notAllowed]
  · have unknown : ∀ rule, name ≠ AccessRule.name rule := by
      rintro rule rfl
      exact known (List.mem_map_of_mem rule.mem_all)
    rw [authorize_of_unknown builtin noRoles unknown, if_neg (by simp only [noRoles, known, or_self,
      not_false_eq_true])]

/-- Under the built-in policies a bearer may do exactly what is documented: it has a role, and it
has one of the roles that the rule asks for, or acts on itself where that is enough. What is refused
is reported with the roles and the rule, or as a rule that there is not; the depth of rules is never
in the way. -/
theorem authorize_exact (engine : Engine) (builtin : PolicySet.builtin = .ok engine.policies)
    (now : Seconds) (claims : Claims) (target : Uuid) (name : String) :
    let isAdmin := claims.hasRole .admin = true
    let isUser := claims.hasRole .user = true
    let result := engine.authorize now claims target name
    (result = .ok () ↔ claims.roles ≠ [] ∧
      (name = "rule_any" ∧ (isAdmin ∨ isUser) ∨
        name = "rule_admin_only" ∧ isAdmin ∨
        name = "rule_user_only" ∧ isUser ∨
        name = "rule_admin_or_subject" ∧
          (isAdmin ∨ (isAdmin ∨ isUser) ∧ claims.subject ≠ "" ∧
            claims.subject = target.toString))) ∧
    (result ≠ .ok () →
      result =
        if claims.roles = [] ∨ name ∈ AccessRule.all.map AccessRule.name then
          .error (.unauthorized claims.roles name)
        else .error (.policy (.unknownRule "gatekeeper.authorization" name))) ∧
    ∀ root depth, result ≠ .error (.policy (.tooDeep root depth)) := by
  intro isAdmin isUser result
  refine ⟨?_, authorize_eq_error builtin, ?_⟩
  · simp only [result, isAdmin, isUser, authorize_eq_ok_iff builtin, AccessRule.exists_iff,
      AccessRule.name, AccessRule.allows, Bool.or_eq_true, Bool.and_eq_true, beq_iff_eq,
      Bool.not_eq_true', String.isEmpty_eq_false_iff, and_assoc]
  · intro root depth tooDeep
    have refused : result ≠ .ok () := by
      rw [tooDeep]
      simp
    have reported : result = _ := authorize_eq_error builtin refused
    rw [tooDeep] at reported
    split at reported <;> cases reported

/-! The sample engine with the built-in policies, and claims of a user for it. -/

def builtinEngine : Engine :=
  { sampleEngine with
    policies := {
      authentication := Policy.authentication
      authorization := Policy.authorization } }

def userClaims : Claims :=
  { sampleClaims with subject := "5cf37266-3473-4006-984f-9325122678b7", roles := ["USER"] }

def userId : Uuid :=
  (Uuid.parse? userClaims.subject).getD .nil

theorem builtinEngine_permits_user :
    PolicySet.builtin = .ok builtinEngine.policies ∧
      builtinEngine.authorize 150 userClaims userId "rule_admin_or_subject" = .ok () := by
  refine ⟨builtin_eq, ?_⟩
  apply (authorize_exact builtinEngine builtin_eq 150 userClaims userId
    "rule_admin_or_subject").1.mpr
  exact ⟨by decide, .inr (.inr (.inr ⟨rfl, .inr ⟨.inr (by decide), by decide, by decide +kernel⟩⟩))⟩

end TokenAuthority.Token.Engine

import TokenAuthority.Proofs.Pipeline.Target

/-!
# Users who act on themselves

A subject is read as an id in any spelling, but the rule compares it with the printed form of the
target. So a user may act on itself if its subject is spelled as ids are printed, and a user whose
subject is the same id in another spelling may not.
-/

namespace TokenAuthority

open Policy (AccessRule PolicySet)

/-! ## The rule -/

namespace Token.Engine

variable {engine : Engine} {claims : Claims} {caller : Identity}

theorem allows_self_iff (isCaller : Identity.ofClaims claims = .ok caller)
    (isUser : claims.hasRole .user = true) :
    AccessRule.adminOrSubject.allows claims caller.userId = true ↔
      claims.hasRole .admin = true ∨ Uuid.IsPrinted claims.subject := by
  rcases Identity.ofClaims_eq_ok_iff.mp isCaller with ⟨nonempty, isId, _⟩
  rw [← Uuid.eq_toString_iff isId]
  simp [AccessRule.allows, isUser, nonempty]

theorem roles_ne_nil (isUser : claims.hasRole .user = true) : claims.roles ≠ [] := by
  intro noRoles
  rw [Claims.hasRole, noRoles] at isUser
  cases isUser

theorem authorize_self (builtin : PolicySet.builtin = .ok engine.policies)
    (isCaller : Identity.ofClaims claims = .ok caller) (isUser : claims.hasRole .user = true)
    (now : Seconds) :
    engine.authorize now claims caller.userId "rule_admin_or_subject" =
      if claims.hasRole .admin = true ∨ Uuid.IsPrinted claims.subject then .ok ()
      else .error (.unauthorized claims.roles "rule_admin_or_subject") := by
  have decided : engine.authorize now claims caller.userId AccessRule.adminOrSubject.name = _ :=
    authorize_rule builtin (roles_ne_nil isUser) .adminOrSubject
  simp only [allows_self_iff isCaller isUser] at decided
  exact decided

end Token.Engine

/-! ## Guarded routes -/

namespace Pipeline

open Token (AuthError Engine)

/-- Under the built-in policies a user may act on itself if it is an admin too or its subject is
spelled as ids are printed, and otherwise is refused as unauthorized. On a route behind both guards
that acts on the caller, because its path names nobody or names the caller in whatever spelling, the
handler runs for a user that is authenticated in time under the same condition. -/
theorem user_acts_on_itself (engine : Engine) (builtin : PolicySet.builtin = .ok engine.policies)
    (claims : Claims) (caller : Identity) (isCaller : Identity.ofClaims claims = .ok caller)
    (isUser : claims.hasRole .user = true) :
    let rule := "rule_admin_or_subject"
    let isAllowed := claims.hasRole .admin = true ∨ Uuid.IsPrinted claims.subject
    let refusal := AuthError.unauthorized claims.roles rule
    (∀ now, engine.authorize now claims caller.userId rule =
      if isAllowed then .ok () else .error refusal) ∧
    ∀ app table pattern request capture world context delay,
      app.layers = global table → pattern.capture? request.target.path = some capture →
      app.context? capture request world = some context →
      engine.authenticate world.now context.authorization = { delay, value := .ok claims } →
      world.clock + delay < context.deadline → ActsOn pattern capture caller caller.userId →
      let served := Authority.serve app (.atHand engine) (.atHand engine) rule capture request world
      (isAllowed → Runs served { context with identity := some caller }
        ((enter context { world }).pass delay)) ∧
      (¬ isAllowed → Ignores served ∧
        ∀ handler, (served handler).1 = .ok (envelopeOf table refusal.failure)) := by
  intro rule isAllowed refusal
  have decided := Engine.authorize_self builtin isCaller isUser
  refine ⟨decided, ?_⟩
  intro app table pattern request capture world context delay layered matched isContext
    authenticated inTime actsOn served
  have isTarget : targetOf context caller = .ok caller.userId :=
    (targetOf_eq_ok_iff (App.of_context? isContext).2.1
      (Http.Pattern.of_capture?_eq_some matched).1).mpr actsOn
  constructor
  · intro allowed
    have permitted : engine.authorize world.now claims caller.userId rule = .ok () := by
      rw [decided, if_pos allowed]
    have admits : Admits engine rule context (enter context { world }) claims caller caller.userId
        delay :=
      ⟨authenticated, le_remaining inTime, isCaller, isTarget, inTime, permitted⟩
    exact (runs_serve_iff_admits layered).mpr
      ⟨context, claims, caller, _, delay, isContext, admits, rfl, rfl⟩
  · intro notAllowed
    have unpermitted : engine.authorize world.now claims caller.userId rule = .error refusal := by
      rw [decided, if_neg notAllowed]
    have isRefused : Authority.letIn (.atHand engine) (.atHand engine) rule context
        (enter context { world }) = (.error (refused refusal), _) :=
      letIn_of_unpermitted authenticated inTime isCaller isTarget unpermitted
    constructor
    · exact ignores_of_eq (Authority.serve_of_refused layered isContext isRefused)
    · intro handler
      simp only [served, Authority.serve_of_refused layered isContext isRefused]
      have fails : (refused refusal).failure? = some refusal.failure := rfl
      exact App.finish_of_failure fails rfl

/-! The sample user, once with its subject in capital letters and once as it is. -/

def capitalClaims : Claims :=
  { Engine.userClaims with subject := "5CF37266-3473-4006-984F-9325122678B7" }

theorem ofClaims_capitalClaims :
    Identity.ofClaims capitalClaims = .ok { userId := Engine.userId, claims := capitalClaims } :=
  Identity.ofClaims_eq_ok_iff.mpr ⟨by decide, by decide +kernel, rfl⟩

theorem capitalClaims_unauthorized :
    Engine.builtinEngine.authorize 150 capitalClaims Engine.userId "rule_admin_or_subject" =
        .error (.unauthorized ["USER"] "rule_admin_or_subject") ∧
      Runs (Authority.serve sampleApp (.atHand Engine.builtinEngine)
        (.atHand Engine.builtinEngine) "rule_admin_or_subject" [] (sampleRequest "/me") sampleWorld)
        { sampleContext "/me" [] with identity := some sampleUser }
        ((enter (sampleContext "/me" []) { world := sampleWorld }).pass 0) := by
  have capital := user_acts_on_itself Engine.builtinEngine Engine.builtin_eq capitalClaims _
    ofClaims_capitalClaims (by decide)
  have small := user_acts_on_itself Engine.builtinEngine Engine.builtin_eq Engine.userClaims
    sampleUser ofClaims_userClaims (by decide)
  constructor
  · rw [capital.1 150, if_neg (by decide +kernel)]
    rfl
  · exact (small.2 sampleApp {} ⟨[.literal ['m', 'e']]⟩ (sampleRequest "/me") [] sampleWorld
      (sampleContext "/me" []) 0 rfl (by decide +kernel) rfl (authenticate_sampleContext "/me" [])
      (by decide) (.unnamed (by decide))).1 (.inr (by decide +kernel))

end Pipeline

end TokenAuthority

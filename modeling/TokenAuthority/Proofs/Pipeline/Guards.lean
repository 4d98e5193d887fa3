import TokenAuthority.Pipeline.Guards
import TokenAuthority.Proofs.Pipeline.Layers

/-!
# Guarded routes

A route whose own layers are the two guards asks one authority who makes a request and one, perhaps
another, whether that caller may act. What comes of it is one decision, in which the handler has no
part: `Authority.letIn` says whether the handler runs, for whom, and how the request ends otherwise.
-/

namespace TokenAuthority.Pipeline

/-- Who is asked: an engine at hand, or a service elsewhere. -/
inductive Authority where
  | atHand (engine : Token.Engine)
  | elsewhere (client : Client)

variable {context : Context} {state : State} {caller : Identity}

namespace Authority

def authenticate : Authority → Middleware
  | .atHand engine => Pipeline.authenticate engine
  | .elsewhere client => authenticateRemotely client

def authorize (rule : String) : Authority → Middleware
  | .atHand engine => Pipeline.authorize engine rule
  | .elsewhere client => authorizeRemotely client rule

/-! ## Answers of an authority -/

def identify (context : Context) (state : State) : Authority → Except Outcome Identity × State
  | .atHand engine => Pipeline.identify engine context state
  | .elsewhere client =>
      let (found, after) := identifyRemotely client context state
      (found.mapError .failure, after)

def grant (rule : String) (caller : Identity) (target : Uuid) (deadline : Nat) (state : State) :
    Authority → Except Outcome Unit × State
  | .atHand engine =>
      if deadline ≤ state.world.clock then (.error (.failure outOfTime), state)
      else ((engine.authorize state.world.now caller.claims target rule).mapError refused, state)
  | .elsewhere client =>
      let inquiry : Inquiry := { claims := caller.claims, userId := target, rule }
      let waited :=
        (client.authorize state.world.sent inquiry).within (deadline - state.world.clock)
      ((settle waited).mapError .failure,
        (state.send (client.authorizeMessage inquiry)).pass waited.delay)

/-! ## Guards as decisions -/

theorem authenticate_eq (authority : Authority) (next : Handler) (context : Context)
    (state : State) :
    authority.authenticate next context state =
      match authority.identify context state with
      | (.error outcome, after) => (outcome, after)
      | (.ok identity, after) => next { context with identity := some identity } after := by
  cases authority with
  | atHand engine => rfl
  | elsewhere client =>
      simp only [authenticate, authenticateRemotely, identify]
      rcases identifyRemotely client context state with ⟨_ | _, after⟩ <;> rfl

theorem authorize_of_unattached (authority : Authority) (rule : String) (next : Handler)
    (unknown : context.identity = none) (state : State) :
    authority.authorize rule next context state = (.failure unattached, state) := by
  have noParties : parties context = .error unattached := by simp only [parties, unknown]
  cases authority with
  | atHand engine =>
      simp only [authorize, Pipeline.authorize, permit, noParties]
      rfl
  | elsewhere client => simp only [authorize, authorizeRemotely, permitRemotely, noParties]

theorem authorize_of_badTarget (authority : Authority) (rule : String) (next : Handler)
    (known : context.identity = some caller) {failure : Failure}
    (bad : targetOf context caller = .error failure) (state : State) :
    authority.authorize rule next context state = (.failure failure, state) := by
  have noParties : parties context = .error failure := by
    simp only [parties, known, bad]
    rfl
  cases authority with
  | atHand engine =>
      simp only [authorize, Pipeline.authorize, permit, noParties]
      rfl
  | elsewhere client => simp only [authorize, authorizeRemotely, permitRemotely, noParties]

theorem authorize_of_target (authority : Authority) (rule : String) (next : Handler)
    (known : context.identity = some caller) {target : Uuid}
    (isTarget : targetOf context caller = .ok target) (state : State) :
    authority.authorize rule next context state =
      match authority.grant rule caller target context.deadline state with
      | (.error outcome, after) => (outcome, after)
      | (.ok (), after) => next context after := by
  have both : parties context = .ok (caller, target) := by
    simp only [parties, known, isTarget]
    rfl
  cases authority with
  | atHand engine =>
      have decision : permit engine rule context state =
          if context.deadline ≤ state.world.clock then .error (.failure outOfTime)
          else (engine.authorize state.world.now caller.claims target rule).mapError refused := by
        simp only [permit, both]
        rfl
      simp only [authorize, Pipeline.authorize, decision, grant]
      by_cases late : context.deadline ≤ state.world.clock
      · simp only [late, if_true]
      · simp only [late, if_false]
        cases engine.authorize state.world.now caller.claims target rule <;> rfl
  | elsewhere client =>
      simp only [authorize, authorizeRemotely, permitRemotely, both, grant, remaining]
      generalize settle _ = settled
      cases settled <;> rfl

/-! ## Both guards -/

/-- For whom the handler behind both guards runs, or how the request ends. -/
def letIn (who whether : Authority) (rule : String) (context : Context) (state : State) :
    Except Outcome Identity × State :=
  match who.identify context state with
  | (.error outcome, after) => (.error outcome, after)
  | (.ok caller, after) =>
      match targetOf context caller with
      | .error failure => (.error (.failure failure), after)
      | .ok target =>
          match whether.grant rule caller target context.deadline after with
          | (.error outcome, ended) => (.error outcome, ended)
          | (.ok (), ended) => (.ok caller, ended)

theorem wrap_guards (who whether : Authority) (rule : String) (handler : Handler)
    (context : Context) (state : State) :
    wrap [who.authenticate, whether.authorize rule] handler context state =
      match letIn who whether rule context state with
      | (.error outcome, after) => (outcome, after)
      | (.ok caller, after) => handler { context with identity := some caller } after := by
  simp only [wrap, List.foldr_cons, List.foldr_nil, authenticate_eq, letIn]
  rcases who.identify context state with ⟨outcome | caller, after⟩
  · rfl
  let known : Context := { context with identity := some caller }
  have sameTarget : targetOf known caller = targetOf context caller := rfl
  cases isTarget : targetOf context caller with
  | error failure =>
      dsimp only
      rw [authorize_of_badTarget whether rule handler rfl (sameTarget.trans isTarget), isTarget]
  | ok target =>
      dsimp only
      rw [authorize_of_target whether rule handler rfl (sameTarget.trans isTarget), isTarget]
      dsimp only
      rcases whether.grant rule caller target context.deadline after with ⟨_ | _, ended⟩ <;> rfl

theorem letIn_eq_ok_iff {who whether : Authority} {rule : String} {ended : State} :
    letIn who whether rule context state = (.ok caller, ended) ↔
      ∃ between target, who.identify context state = (.ok caller, between) ∧
        targetOf context caller = .ok target ∧
        whether.grant rule caller target context.deadline between = (.ok (), ended) := by
  unfold letIn
  constructor
  · intro admitted
    split at admitted
    · cases admitted
    rename_i found between identified
    split at admitted
    · cases admitted
    rename_i target isTarget
    split at admitted
    · cases admitted
    rename_i after granted
    cases admitted
    exact ⟨between, target, identified, isTarget, granted⟩
  · rintro ⟨between, target, identified, isTarget, granted⟩
    simp only [identified, isTarget, granted]

/-! ## Guarded routes -/

variable {app : App} {table : StatusTable} {capture : Http.Pattern.Capture}
  {request : Http.Request} {world : World} {who whether : Authority} {rule : String}

def serve (app : App) (who whether : Authority) (rule : String) (capture : Http.Pattern.Capture)
    (request : Http.Request) (world : World) (handler : Handler) :
    Except Panic Http.Response × World :=
  app.serveRoute (wrap app.layers (wrap [who.authenticate, whether.authorize rule] handler)) capture
    request world

theorem serve_of_admitted (layered : app.layers = global table)
    (isContext : app.context? capture request world = some context) {ended : State}
    (admitted : letIn who whether rule context (enter context { world }) = (.ok caller, ended))
    (handler : Handler) :
    serve app who whether rule capture request world handler =
      app.finish table context (handler { context with identity := some caller } ended) := by
  simp only [serve, App.serveRoute_of_context layered isContext, wrap_guards, admitted]

theorem serve_of_refused (layered : app.layers = global table)
    (isContext : app.context? capture request world = some context) {outcome : Outcome}
    {ended : State}
    (isRefused : letIn who whether rule context (enter context { world }) = (.error outcome, ended))
    (handler : Handler) :
    serve app who whether rule capture request world handler =
      app.finish table context (outcome, ended) := by
  simp only [serve, App.serveRoute_of_context layered isContext, wrap_guards, isRefused]

theorem runs_serve_iff (layered : app.layers = global table) {inner : Context} {held : State} :
    Runs (serve app who whether rule capture request world) inner held ↔
      ∃ context caller, app.context? capture request world = some context ∧
        letIn who whether rule context (enter context { world }) = (.ok caller, held) ∧
        inner = { context with identity := some caller } := by
  cases isContext : app.context? capture request world with
  | none =>
      have ignores : Ignores (serve app who whether rule capture request world) :=
        ignores_of_eq fun handler => App.serveRoute_of_noContext isContext _
      simp [ignores.not_runs]
  | some context =>
      rcases decision : letIn who whether rule context (enter context { world }) with
        ⟨outcome | caller, ended⟩
      · have ignores : Ignores (serve app who whether rule capture request world) :=
          ignores_of_eq (serve_of_refused layered isContext decision)
        simp [ignores.not_runs, decision]
      · rw [runs_iff_of_eq (serve_of_admitted layered isContext decision)
          (App.finish_tells app table context)]
        constructor
        · rintro ⟨rfl, rfl⟩
          exact ⟨context, caller, rfl, decision, rfl⟩
        · rintro ⟨again, other, isAgain, same, rfl⟩
          cases isAgain
          rw [decision] at same
          cases same
          exact ⟨rfl, rfl⟩

theorem runs_or_ignores (layered : app.layers = global table) :
    (∃ inner held, Runs (serve app who whether rule capture request world) inner held) ∨
      Ignores (serve app who whether rule capture request world) := by
  cases isContext : app.context? capture request world with
  | none => exact .inr (ignores_of_eq fun handler => App.serveRoute_of_noContext isContext _)
  | some context =>
      rcases decision : letIn who whether rule context (enter context { world }) with
        ⟨outcome | caller, ended⟩
      · exact .inr (ignores_of_eq (serve_of_refused layered isContext decision))
      · exact .inl ⟨_, _, (runs_serve_iff layered).mpr ⟨context, caller, isContext, decision, rfl⟩⟩

theorem ignores_of_not_runs (layered : app.layers = global table)
    (neverRuns : ∀ inner held,
      ¬ Runs (serve app who whether rule capture request world) inner held) :
    Ignores (serve app who whether rule capture request world) := by
  rcases runs_or_ignores layered with ⟨inner, held, runs⟩ | ignores
  · exact absurd runs (neverRuns inner held)
  · exact ignores

end Authority

end TokenAuthority.Pipeline

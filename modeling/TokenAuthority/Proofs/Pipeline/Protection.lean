import TokenAuthority.Proofs.Pipeline.AtHand

/-!
# Protected routes

A route behind both guards fails closed: its handler runs for an authenticated caller who is
permitted to act, and every other request is answered with an envelope that tells why. Without
authentication in front of it, authorization lets nobody pass.
-/

namespace TokenAuthority.Pipeline

open Token (Engine)

/-! ## Chains of layers -/

inductive Layer where
  | logger
  | boundary (table : StatusTable)
  | meter
  | safetyNet
  | marker (name : String)
  | authenticate (who : Authority)
  | authorize (whether : Authority) (rule : String)

def Layer.middleware : Layer → Middleware
  | .logger => Pipeline.logger
  | .boundary table => Pipeline.boundary table
  | .meter => Pipeline.meter
  | .safetyNet => Pipeline.safetyNet
  | .marker name => Pipeline.marker name
  | .authenticate who => who.authenticate
  | .authorize whether rule => whether.authorize rule

def wrapLayers (layers : List Layer) (handler : Handler) : Handler :=
  wrap (layers.map Layer.middleware) handler

theorem wrapLayers_append (outer inner : List Layer) (handler : Handler) :
    wrapLayers (outer ++ inner) handler = wrapLayers outer (wrapLayers inner handler) := by
  rw [wrapLayers, List.map_append, wrap_append]
  rfl

theorem wrap_global_eq (table : StatusTable) (handler : Handler) :
    wrap (global table) handler =
      wrapLayers [.logger, .boundary table, .meter, .safetyNet] handler := rfl

/-- Two handlers agree as long as nobody is known. -/
def AgreeUnattached (left right : Handler) : Prop :=
  ∀ context state, context.identity = none → left context state = right context state

theorem agree_layer {left right : Handler} {layer : Layer} (agree : AgreeUnattached left right)
    (attachesNobody : ∀ who, layer ≠ .authenticate who) :
    AgreeUnattached (layer.middleware left) (layer.middleware right) := by
  intro context state unknown
  cases layer with
  | logger => simp only [Layer.middleware, logger_eq, agree _ _ unknown]
  | boundary table => simp only [Layer.middleware, boundary_eq, agree _ _ unknown]
  | meter => simp only [Layer.middleware, meter_eq, agree _ _ unknown]
  | safetyNet => simp only [Layer.middleware, safetyNet_eq, agree _ _ unknown]
  | marker name => simp only [Layer.middleware, marker, agree _ _ unknown]
  | authenticate who => exact absurd rfl (attachesNobody who)
  | authorize whether rule =>
      simp only [Layer.middleware, whether.authorize_of_unattached rule _ unknown]

theorem agree_wrapLayers {left right : Handler} {layers : List Layer}
    (agree : AgreeUnattached left right) (attachesNobody : ∀ who, .authenticate who ∉ layers) :
    AgreeUnattached (wrapLayers layers left) (wrapLayers layers right) := by
  induction layers with
  | nil => exact agree
  | cons layer layers induction =>
      apply agree_layer
      · exact induction fun who member => attachesNobody who (List.mem_cons_of_mem _ member)
      · rintro who rfl
        exact attachesNobody who List.mem_cons_self

theorem agree_authorize (whether : Authority) (rule : String) (left right : Handler) :
    AgreeUnattached (whether.authorize rule left) (whether.authorize rule right) := by
  intro context state unknown
  rw [whether.authorize_of_unattached rule left unknown,
    whether.authorize_of_unattached rule right unknown]

variable {app : App} {table : StatusTable} {capture : Http.Pattern.Capture}
  {request : Http.Request} {world : World}

theorem serveRoute_of_agree {left right : Handler} (agree : AgreeUnattached left right) :
    app.serveRoute left capture request world = app.serveRoute right capture request world := by
  cases isContext : app.context? capture request world with
  | none => rw [App.serveRoute_of_noContext isContext, App.serveRoute_of_noContext isContext]
  | some context =>
      simp only [App.serveRoute, isContext, agree context _ (App.of_context? isContext).1]

theorem ignores_unauthenticated (layered : app.layers = global table) {before after : List Layer}
    (attachesNobody : ∀ who, .authenticate who ∉ before) (whether : Authority) (rule : String) :
    Ignores fun handler =>
      app.serveRoute
        (wrap app.layers (wrapLayers (before ++ .authorize whether rule :: after) handler)) capture
        request world := by
  intro left right
  apply serveRoute_of_agree
  rw [layered, wrap_global_eq, wrap_global_eq, wrapLayers_append, wrapLayers_append]
  -- Behind the authorization any two handlers agree, and the layers in front of it keep that.
  apply agree_wrapLayers _ (by simp)
  apply agree_wrapLayers _ attachesNobody
  exact agree_authorize whether rule _ _

/-! ## Routes behind both guards -/

variable {engine : Engine} {rule : String} {context : Context}

theorem answer_of_refused (layered : app.layers = global table)
    (isContext : app.context? capture request world = some context) {outcome : Outcome}
    {ended : State}
    (isRefused : Authority.letIn (.atHand engine) (.atHand engine) rule context
      (enter context { world }) = (.error outcome, ended)) (handler : Handler) :
    ∃ failure,
      (Authority.serve app (.atHand engine) (.atHand engine) rule capture request world handler).1 =
        .ok (envelopeOf table failure) ∧
      TurnedAway engine rule context (enter context { world }) failure := by
  rcases endsAway_of_letIn isRefused with ⟨failure, fails, turnedAway⟩
  refine ⟨failure, ?_, turnedAway⟩
  rw [Authority.serve_of_refused layered isContext isRefused]
  exact App.finish_of_failure fails turnedAway.stays

/-- Behind both guards the handler runs exactly for a caller that the engine admits, and sees that
caller. Any other request is answered with the envelope of a failure that `TurnedAway` accounts for,
unless no clock shows its times. Authorization without authentication lets nothing run. -/
theorem guarded_route_fails_closed (engine : Engine) (rule : String) (app : App)
    (table : StatusTable) (layered : app.layers = global table) (capture : Http.Pattern.Capture)
    (request : Http.Request) (world : World) :
    let served := Authority.serve app (.atHand engine) (.atHand engine) rule capture request world
    (∀ inner held, Runs served inner held ↔
      ∃ context claims caller target delay,
        app.context? capture request world = some context ∧
        Admits engine rule context (enter context { world }) claims caller target delay ∧
        inner = { context with identity := some caller } ∧
        held = (enter context { world }).pass delay) ∧
    ((∀ inner held, ¬ Runs served inner held) →
      Ignores served ∧ ∀ handler,
        match app.context? capture request world with
        | none => served handler = (.error App.untimed, world)
        | some context =>
            ∃ failure, (served handler).1 = .ok (envelopeOf table failure) ∧
              TurnedAway engine rule context (enter context { world }) failure) ∧
    ∀ whether before after, (∀ who, Layer.authenticate who ∉ before) →
      Ignores fun handler =>
        app.serveRoute
          (wrap app.layers (wrapLayers (before ++ .authorize whether rule :: after) handler))
          capture request world := by
  intro served
  refine ⟨fun _ _ => runs_serve_iff_admits layered, ?_, fun whether _ _ attachesNobody =>
    ignores_unauthenticated layered attachesNobody whether rule⟩
  intro neverRuns
  refine ⟨Authority.ignores_of_not_runs layered neverRuns, ?_⟩
  intro handler
  cases isContext : app.context? capture request world with
  | none => exact App.serveRoute_of_noContext isContext _
  | some context =>
      rcases decision : Authority.letIn (.atHand engine) (.atHand engine) rule context
        (enter context { world }) with ⟨outcome | caller, ended⟩
      · exact answer_of_refused layered isContext decision handler
      · have runs : Runs served _ ended := (Authority.runs_serve_iff layered).mpr
          ⟨context, caller, isContext, decision, rfl⟩
        exact absurd runs (neverRuns _ ended)

theorem sampleUser_passes :
    (∃ inner held, inner.identity = some sampleUser ∧
      Runs (Authority.serve sampleApp (.atHand Engine.builtinEngine) (.atHand Engine.builtinEngine)
        "rule_admin_or_subject" [] (sampleRequest "/me") sampleWorld) inner held) ∧
      Ignores fun handler =>
        sampleApp.serveRoute
          (wrap sampleApp.layers (wrapLayers
            ([.marker "first"] ++ [.authorize (.atHand Engine.builtinEngine) "rule_any"]) handler))
          [] (sampleRequest "/me") sampleWorld := by
  let context := sampleContext "/me" []
  let entered := enter context { world := sampleWorld }
  have closed := fun rule => guarded_route_fails_closed Engine.builtinEngine rule sampleApp {} rfl
    [] (sampleRequest "/me") sampleWorld
  constructor
  · refine ⟨{ context with identity := some sampleUser }, entered.pass 0, rfl, ?_⟩
    exact ((closed _).1 _ _).mpr
      ⟨context, _, sampleUser, _, 0, rfl, admits_sampleUser rfl, rfl, rfl⟩
  · exact (closed _).2.2 _ _ _ (by simp)

end TokenAuthority.Pipeline

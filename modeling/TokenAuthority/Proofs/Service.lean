import TokenAuthority.Proofs.Pipeline.Accounts
import TokenAuthority.Service

/-!
# What the service sends back

A request for a route of the service passes the gates and is answered in a context of its own. What
the gates and the method do to the answer does not show in its status and its body.
-/

namespace TokenAuthority

open Pipeline

def Http.Reply.ofResponse (response : Http.Response) : Http.Reply where
  status := response.status
  body := Text.encode response.body

theorem Http.Reply.status_envelopeOf (table : StatusTable) (failure : Failure) :
    (ofResponse (envelopeOf table failure)).status = table.status failure.kind := by
  change (envelopeOf table failure).status = table.status failure.kind
  rw [envelopeOf, Http.Response.json]
  split <;> rfl

namespace Service

variable {service : Service} {request : Http.Request} {world : World}

theorem patterns_app (service : Service) :
    service.app.routes.map Route.pattern =
      [livenessPath, readinessPath, renewalPath, identityPath, permissionPath] := rfl

theorem destination_identity (service : Service) :
    service.app.destination "GET" "/auth/authenticate" =
      .route (wrap (global service.table) (wrap [authenticate service.engine] whoAmI)) [] := by
  have isPattern : service.app.pattern? "/auth/authenticate" = some identityPath := by
    rw [App.pattern?, patterns_app]
    decide +kernel
  rw [App.destination, isPattern]
  rfl

theorem destination_permission (service : Service) :
    service.app.destination "POST" "/auth/authorize" =
      .route (wrap (global service.table) service.permits) [] := by
  have isPattern : service.app.pattern? "/auth/authorize" = some permissionPath := by
    rw [App.pattern?, patterns_app]
    decide +kernel
  rw [App.destination, isPattern]
  rfl

/-- The length that counts for a body: the one that is declared, or else the greatest there may
be. -/
def bodyLength (request : Http.Request) : Nat :=
  (Gate.declaredLength? request).getD maximumBody

def received (request : Http.Request) : Http.Request :=
  { request with body := { request.body with bound := some (bodyLength request) } }

def replyOf (answer : Except Panic Http.Response) : Option Http.Reply :=
  answer.toOption.map Http.Reply.ofResponse

def released (request : Http.Request) (response : Http.Response) : Http.Response :=
  App.sentBack request.method (Gate.anyOrigin.release response)

theorem replyOf_released (bodied : request.method = "GET" ∨ request.method = "POST")
    (answer : Except Panic Http.Response) :
    replyOf (answer.map (released request)) = replyOf answer := by
  have same : App.sentBack request.method = id := by
    funext response
    rcases bodied with isMethod | isMethod <;> rw [isMethod] <;> rfl
  cases answer with
  | error panic => rfl
  | ok response =>
      simp only [Except.map, released, same]
      rfl

theorem serve_of_route {handler : Handler} {capture : Http.Pattern.Capture}
    (noOptions : request.method ≠ "OPTIONS")
    (isRoute : service.app.destination request.method request.target.path =
      .route handler capture) (world : World) :
    service.app.serve request world =
      if maximumBody < bodyLength request then
        (.ok (released request (.plain .payloadTooLarge "length limit exceeded")), world)
      else
        let served := service.app.serveRoute handler capture (received request) world
        (served.1.map (released request), served.2) := by
  let server := service.app.serveRoute handler capture
  have open_ : Gate.anyOrigin.receive request = .ok request := if_neg noOptions
  have served : service.app.serve request world =
      (((Gate.bodyLimit maximumBody).guard server request world).1.map (released request),
        ((Gate.bodyLimit maximumBody).guard server request world).2) := by
    have guarded : Gate.guardAll service.app.gates server request world =
        (((Gate.bodyLimit maximumBody).guard server request world).1.map Gate.anyOrigin.release,
          ((Gate.bodyLimit maximumBody).guard server request world).2) := by
      change Gate.anyOrigin.guard ((Gate.bodyLimit maximumBody).guard server) request world = _
      rw [Gate.guard, open_]
    simp only [App.serve, isRoute, guarded, server]
    rcases (Gate.bodyLimit maximumBody).guard _ request world with ⟨_ | _, after⟩ <;> rfl
  rw [served]
  by_cases long : maximumBody < bodyLength request
  · have refuses : (Gate.bodyLimit maximumBody).receive request =
        .error (.plain .payloadTooLarge "length limit exceeded") := if_pos long
    rw [Gate.guard, refuses, if_pos long]
    rfl
  · have accepts : (Gate.bodyLimit maximumBody).receive request = .ok (received request) :=
      if_neg long
    rw [Gate.guard, accepts, if_neg long]
    change (((server (received request) world).1.map id).map (released request), _) =
      ((server (received request) world).1.map (released request), _)
    cases (server (received request) world).1 <;> rfl

theorem replyOf_serve {inner : Handler} {capture : Http.Pattern.Capture}
    (bodied : request.method = "GET" ∨ request.method = "POST")
    (isRoute : service.app.destination request.method request.target.path =
      .route (wrap (global service.table) inner) capture)
    (world : World) :
    replyOf (service.app.serve request world).1 =
      if maximumBody < bodyLength request then
        some (.ofResponse (.plain .payloadTooLarge "length limit exceeded"))
      else
        (service.app.context? capture (received request) world).map fun context =>
          .ofResponse ((inner context (enter context { world })).1.answer service.table) := by
  have noOptions : request.method ≠ "OPTIONS" := by
    rcases bodied with isMethod | isMethod <;> rw [isMethod] <;> decide
  rw [serve_of_route noOptions isRoute]
  by_cases long : maximumBody < bodyLength request
  · rw [if_pos long, if_pos long]
    exact replyOf_released bodied (.ok _)
  · rw [if_neg long, if_neg long]
    dsimp only
    rw [replyOf_released bodied]
    cases isContext : service.app.context? capture (received request) world with
    | none =>
        rw [App.serveRoute_of_noContext isContext]
        rfl
    | some context =>
        have layered : service.app.layers = global service.table := rfl
        rw [← layered, App.serveRoute_of_context layered isContext, Option.map_some]
        rcases inner context (enter context { world }) with ⟨outcome, ended⟩
        have answered : (service.app.finish service.table context (outcome, ended)).1 =
            .ok (outcome.answer service.table) := App.answer_finish
        rw [answered]
        rfl

end Service

/-! ## Contexts -/

/-- Whether the clocks show when a request comes and when it has to be answered. -/
structure Pipeline.App.Times (app : App) (world : World) : Prop where
  shown : Claims.isShown world.now.toInt = true
  lasting : (deadline? world.clock app.timeout).isSome = true

theorem Pipeline.App.Times.context? {app : App} {world : World} (times : app.Times world)
    (capture : Http.Pattern.Capture) (request : Http.Request) :
    ∃ context, app.context? capture request world = some context ∧ context.request = request ∧
      context.body = some request.body ∧
      remaining context (enter context { world }) = app.timeout := by
  rcases Option.isSome_iff_exists.mp times.lasting with ⟨deadline, isDeadline⟩
  have time : deadline - world.clock = app.timeout := by
    unfold deadline? at isDeadline
    split at isDeadline
    · cases isDeadline
      exact Nat.add_sub_cancel_left world.clock app.timeout
    · cases isDeadline
  refine ⟨{
    request
    parameters := Http.Pattern.parameters? capture
    body := some request.body
    startedAt := world.now
    isTraced := true
    deadline }, ?_, rfl, rfl, time⟩
  simp [App.context?, isDeadline, Context.ofRequest?, times.shown]

end TokenAuthority

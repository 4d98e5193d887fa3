import TokenAuthority.Http.Pattern
import TokenAuthority.Pipeline.Gate

/-!
# Applications

Routes, each for a method and a pattern of paths, with the layers that surround them. A route runs
its handler within its own layers within those of the application; a bare route runs its handler
alone. A failure that comes through all layers is answered here, and if it has to stop the service,
here is where that is asked for.
-/

namespace TokenAuthority.Pipeline

structure Route where
  method : String
  pattern : Http.Pattern
  /-- With all layers around it. -/
  handler : Handler

namespace Route

/-- The methods that the route answers, as a caller is told. Whatever can be had can be asked about
without a body. -/
def methods (route : Route) : String :=
  if route.method = "GET" then "GET,HEAD" else route.method

end Route

structure App where
  /-- The layers of every route that is not bare, outermost first. -/
  layers : List Middleware := []
  /-- The statuses of failures that come through all layers. -/
  table : StatusTable := {}
  /-- How long a request may take, in milliseconds. -/
  timeout : Nat := defaultTimeout
  /-- What every request has to pass, also one that no route is for. -/
  gates : List Gate := []
  routes : List Route := []

namespace App

/-! ## Routes -/

def handleBare (app : App) (method : String) (pattern : Http.Pattern) (handler : Handler) : App :=
  { app with routes := app.routes ++ [{ method, pattern, handler }] }

/-- Adds a route whose handler has layers of its own within those of the application. -/
def handle (app : App) (method : String) (pattern : Http.Pattern) (handler : Handler)
    (inner : List Middleware := []) : App :=
  app.handleBare method pattern (wrap app.layers (wrap inner handler))

theorem handle_eq (app : App) (method : String) (pattern : Http.Pattern) (handler : Handler)
    (inner : List Middleware) :
    app.handle method pattern handler inner =
      app.handleBare method pattern (wrap (app.layers ++ inner) handler) := by
  rw [handle, wrap_append]

def areCompatible (left right : Route) : Bool :=
  !left.pattern.collides right.pattern &&
    !(left.pattern == right.pattern && left.method == right.method)

def isSound : List Route → Bool
  | [] => true
  | route :: routes => routes.all (areCompatible route) && isSound routes

/-! ## Finding the route of a request -/

/-- The pattern that counts for a path: of those that match it, the one that precedes all others. -/
def pattern? (app : App) (path : String) : Option Http.Pattern :=
  ((app.routes.map Route.pattern).filter fun pattern => (pattern.capture? path).isSome).foldl
    (fun best pattern =>
      match best with
      | none => some pattern
      | some held => if pattern.precedes held then some pattern else some held)
    none

def routeFor? (method : String) (routes : List Route) : Option Route :=
  let route? := fun method => routes.find? fun route => route.method == method
  if method = "HEAD" then route? "HEAD" <|> route? "GET" else route? method

inductive Destination where
  /-- No path is like this. -/
  | nowhere
  /-- The path is known, but not for this method. -/
  | wrongMethod (allowed : String)
  | route (handler : Handler) (capture : Http.Pattern.Capture)

def destination (app : App) (method path : String) : Destination :=
  match app.pattern? path with
  | none => .nowhere
  | some pattern =>
      let routes := app.routes.filter fun route => route.pattern == pattern
      match routeFor? method routes with
      | some route => .route route.handler ((pattern.capture? path).getD [])
      | none => .wrongMethod (",".intercalate (routes.map Route.methods))

/-! ## Answering -/

def conclude (app : App) (outcome : Outcome) (state : State) :
    Except Panic Http.Response × State :=
  match outcome with
  | .response response => (.ok response, state)
  | .panic panic => (.error panic, state)
  | .failure failure =>
      let asked :=
        if failure.isShutdown then
          (state.log (.shutdownRequested failure.message)).signal failure.message
        else state
      let (response, after) := respondFailure app.table failure asked
      (.ok response, after)

def untimed : Panic where
  words := some "overflow when adding duration to instant"

def context? (app : App) (capture : Http.Pattern.Capture) (request : Http.Request) (world : World) :
    Option Context := do
  let deadline ← deadline? world.clock app.timeout
  let context ← Context.ofRequest? request world.now deadline
  return { context with parameters := Http.Pattern.parameters? capture, isTraced := true }

def serveRoute (app : App) (handler : Handler) (capture : Http.Pattern.Capture) : Responder :=
  fun request world =>
    match app.context? capture request world with
    | none => (.error untimed, world)
    | some context =>
        let (outcome, state) := handler context { world }
        let (answer, state) := app.conclude outcome state
        (answer, state.world)

def always (response : Http.Response) : Responder := fun _ world => (.ok response, world)

def withAllowed (allowed : String) (response : Http.Response) : Http.Response :=
  if (Entries.get? "allow" response.headers).isSome then response
  else response.setHeader "allow" allowed

/-- What is sent of a response. Who only asks about what can be had gets no body, and who asks for a
connection gets none with a success. -/
def sentBack (method : String) (response : Http.Response) : Http.Response :=
  if method = "HEAD" ∨ (method = "CONNECT" ∧ response.status.isSuccess) then response.withoutBody
  else response

def serve (app : App) : Responder := fun request world =>
  let (answer, after) :=
    match app.destination request.method request.target.path with
    | .nowhere => Gate.guardAll app.gates (always { status := .notFound }) request world
    | .wrongMethod allowed =>
        let (answer, after) :=
          Gate.guardAll app.gates (always { status := .methodNotAllowed }) request world
        (answer.map (withAllowed allowed), after)
    | .route handler capture =>
        Gate.guardAll app.gates (app.serveRoute handler capture) request world
  (answer.map (sentBack request.method), after)

end App

end TokenAuthority.Pipeline

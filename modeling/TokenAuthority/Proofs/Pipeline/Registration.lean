import TokenAuthority.Proofs.Pipeline.Nesting

/-!
# Registered handlers

An application takes its handlers one by one, each with layers of its own or bare. What a handler
runs in depends on the layers of the application and on its own, and not on what else is registered
or when: a bare one runs in none.
-/

namespace TokenAuthority.Pipeline

structure Registration where
  method : String
  pattern : Http.Pattern
  handler : Handler
  /-- Its own layers, unless it is to be bare. -/
  inner : Option (List Middleware)

namespace Registration

/-- The layers that the handler runs in, in an application with layers. -/
def chain (outer : List Middleware) (registration : Registration) : List Middleware :=
  registration.inner.elim [] (outer ++ ·)

def route (outer : List Middleware) (registration : Registration) : Route where
  method := registration.method
  pattern := registration.pattern
  handler := wrap (registration.chain outer) registration.handler

end Registration

namespace App

def register (app : App) (registration : Registration) : App :=
  match registration.inner with
  | none => app.handleBare registration.method registration.pattern registration.handler
  | some inner => app.handle registration.method registration.pattern registration.handler inner

def registerAll (app : App) (registrations : List Registration) : App :=
  registrations.foldl register app

theorem register_eq (app : App) (registration : Registration) :
    app.register registration =
      { app with routes := app.routes ++ [registration.route app.layers] } := by
  rcases registration with ⟨method, pattern, handler, _ | inner⟩
  · rfl
  · exact app.handle_eq method pattern handler inner

theorem registerAll_eq (app : App) (registrations : List Registration) :
    app.registerAll registrations =
      { app with
        routes := app.routes ++ registrations.map (Registration.route app.layers) } := by
  induction registrations generalizing app with
  | nil => simp [registerAll]
  | cons registration registrations induction =>
      change (app.register registration).registerAll registrations = _
      rw [induction, register_eq, List.map_cons, List.append_assoc, List.singleton_append]

/-! ## Who answers -/

theorem pattern?_congr {left right : App}
    (same : left.routes.map Route.pattern = right.routes.map Route.pattern) (path : String) :
    left.pattern? path = right.pattern? path := by
  rw [pattern?, pattern?, same]

theorem routeFor?_map_route (method : String) (registrations : List Registration) :
    ∃ found : Option Registration, (∀ registration ∈ found, registration ∈ registrations) ∧
      ∀ outer, routeFor? method (registrations.map (Registration.route outer)) =
        found.map (Registration.route outer) := by
  let find? := fun method : String =>
    registrations.find? fun registration => registration.method == method
  have sameFind : ∀ outer method,
      ((registrations.map (Registration.route outer)).find? fun route => route.method == method) =
        (find? method).map (Registration.route outer) := by
    intro outer method
    rw [List.find?_map]
    rfl
  by_cases isHead : method = "HEAD"
  · refine ⟨(find? "HEAD").or (find? "GET"), ?_, ?_⟩
    · intro registration found
      rcases Option.or_eq_some_iff.mp found with found | ⟨_, found⟩
      · exact List.mem_of_find?_eq_some found
      · exact List.mem_of_find?_eq_some found
    · intro outer
      simp only [routeFor?, isHead, if_true, sameFind]
      cases find? "HEAD" <;> rfl
  · refine ⟨find? method, fun registration found => List.mem_of_find?_eq_some found, ?_⟩
    intro outer
    simp only [routeFor?, isHead, if_false, sameFind]

theorem destination_registerAll (registrations : List Registration) (method path : String) :
    (∃ registration ∈ registrations, ∃ capture, ∀ app : App, app.routes = [] →
      (app.registerAll registrations).destination method path =
        .route (registration.route app.layers).handler capture) ∨
    ∃ other : Destination, (∀ handler capture, other ≠ .route handler capture) ∧
      ∀ app : App, app.routes = [] →
        (app.registerAll registrations).destination method path = other := by
  -- Routes of different applications differ in their handlers only, and patterns and methods
  -- decide.
  have routes : ∀ app : App, app.routes = [] → (app.registerAll registrations).routes =
      registrations.map (Registration.route app.layers) := by
    intro app fresh
    rw [registerAll_eq, fresh, List.nil_append]
  have patterns : ∀ app : App, app.routes = [] → (app.registerAll registrations).pattern? path =
      (({} : App).registerAll registrations).pattern? path := by
    intro app fresh
    apply pattern?_congr
    rw [routes app fresh, routes {} rfl, List.map_map, List.map_map]
    rfl
  cases isPattern : (({} : App).registerAll registrations).pattern? path with
  | none =>
      refine .inr ⟨.nowhere, nofun, ?_⟩
      intro app fresh
      rw [destination, patterns app fresh, isPattern]
  | some pattern =>
      let chosen := registrations.filter fun registration => registration.pattern == pattern
      have chosenRoutes : ∀ app : App, app.routes = [] →
          ((app.registerAll registrations).routes.filter fun route => route.pattern == pattern) =
            chosen.map (Registration.route app.layers) := by
        intro app fresh
        rw [routes app fresh, List.filter_map]
        rfl
      rcases routeFor?_map_route method chosen with ⟨found, isChosen, routeFor⟩
      cases isFound : found with
      | some registration =>
          have member := List.mem_filter.mp (isChosen registration isFound)
          refine .inl ⟨registration, member.1, (pattern.capture? path).getD [], ?_⟩
          intro app fresh
          simp only [destination, patterns app fresh, isPattern, chosenRoutes app fresh, routeFor,
            isFound, Option.map_some]
      | none =>
          let allowed := chosen.map fun registration => (registration.route []).methods
          refine .inr ⟨.wrongMethod (",".intercalate allowed), nofun, ?_⟩
          intro app fresh
          simp only [destination, patterns app fresh, isPattern, chosenRoutes app fresh, routeFor,
            isFound, Option.map_none, List.map_map]
          rfl

/-! ## Layers around registered handlers -/

theorem handle_stages {app : App} {outer : List Stage}
    (layered : app.layers = outer.map Stage.middleware) (method : String) (pattern : Http.Pattern)
    (handler : Handler) (inner : List Stage) :
    app.handle method pattern handler (inner.map Stage.middleware) =
      app.handleBare method pattern (wrapStages (outer ++ inner) handler) := by
  rw [handle_eq, layered, wrapStages, List.map_append]

/-- The handler of a registration runs in the layers of the application and then its own, or bare,
in whatever order handlers are registered. Layers nest: each is entered and left once, one that ends
the matter keeps those behind it from running, and what it does to the context they all see. -/
theorem registered_handlers_run_in_layers :
    (∀ (app : App) method pattern handler inner,
      app.handle method pattern handler inner =
        app.handleBare method pattern (wrap (app.layers ++ inner) handler)) ∧
    (∀ (app : App) (outer : List Stage), app.layers = outer.map Stage.middleware →
      ∀ method pattern handler (inner : List Stage),
        app.handle method pattern handler (inner.map Stage.middleware) =
            app.handleBare method pattern (wrapStages (outer ++ inner) handler) ∧
          ∀ context state, NestsAround handler (outer ++ inner) context state) ∧
    (∀ table, global table =
      ([Layer.logger, .boundary table, .meter, .safetyNet].map Layer.stage).map
        Stage.middleware) ∧
    (∀ layer : Layer, layer.stage.middleware = layer.middleware ∧ layer.stage.IsSimple ∧
      ((∀ who, layer ≠ .authenticate who) → ∀ property, layer.stage.Keeps property)) ∧
    (∀ (who : Authority) context state caller after,
      who.identify context state = (.ok caller, after) →
        (Layer.authenticate who).stage.course context state =
          .once { context with identity := some caller } after id) ∧
    (∀ (registration : Registration) outer, registration.inner = none →
      registration.route outer =
        Route.mk registration.method registration.pattern registration.handler) ∧
    (∀ (app : App) (registrations moved : List Registration), registrations.Perm moved →
      (app.registerAll registrations).routes =
          app.routes ++ registrations.map (Registration.route app.layers) ∧
        (app.registerAll registrations).routes.Perm (app.registerAll moved).routes) ∧
    ∀ (registrations : List Registration) (method path : String),
      (∃ registration ∈ registrations, ∃ capture, ∀ app : App, app.routes = [] →
        (app.registerAll registrations).destination method path =
          .route (registration.route app.layers).handler capture) ∨
      ∃ other : Destination, (∀ handler capture, other ≠ .route handler capture) ∧
        ∀ app : App, app.routes = [] →
          (app.registerAll registrations).destination method path = other := by
  refine ⟨?_, ?_, fun _ => rfl, ?_, ?_, ?_, ?_, destination_registerAll⟩
  · intro app method pattern handler inner
    exact app.handle_eq method pattern handler inner
  · intro app outer layered method pattern handler inner
    exact ⟨handle_stages layered method pattern handler inner,
      nestsAround handler (outer ++ inner)⟩
  · intro layer
    exact ⟨rfl, layer.isSimple_stage, layer.keeps_stage⟩
  · intro who context state caller after found
    exact Layer.course_authenticate found
  · intro registration outer isBare
    simp [Registration.route, Registration.chain, isBare, wrap]
  · intro app registrations moved order
    simp only [registerAll_eq]
    exact ⟨trivial, (order.map _).append_left _⟩

/-! Two layers of an application around one of a route. -/

def markedApp : App where
  layers := [marker "g1", marker "g2"]

def markedHandler : Handler := fun _ state => answered (respond .ok "ok" state)

def markedStages : List Stage :=
  [(Layer.marker "g1").stage, (Layer.marker "g2").stage] ++ [(Layer.marker "l1").stage]

theorem marked_handler_nests :
    let context := sampleContext "/x" []
    let state : State := { world := sampleWorld }
    events markedHandler 0 markedStages context state =
        [.entered 0 context, .entered 1 context, .entered 2 context, .handled context, .left 2,
          .left 1, .left 0] ∧
      (wrapStages markedStages markedHandler context state).2.world.trail =
        ["g1 in 200", "g2 in 200", "l1 in 200", "l1 out 200 200", "g2 out 200 200",
          "g1 out 200 200"] := by
  intro context state
  have nests := (registered_handlers_run_in_layers.2.1 markedApp
    [(Layer.marker "g1").stage, (Layer.marker "g2").stage] rfl "GET" ⟨[.literal "x".toList]⟩
    markedHandler [(Layer.marker "l1").stage]).2 context state
  have passed := nests.passed (.layer rfl (.layer rfl (.layer rfl (.handler _ _))))
  refine ⟨passed.2, ?_⟩
  cbv

end App

end TokenAuthority.Pipeline

import TokenAuthority.Proofs.Pipeline.Accounts
import TokenAuthority.Proofs.Pipeline.Protection
import TokenAuthority.Proofs.Shutdown
import TokenAuthority.Service

/-!
# Stopping the service

A request asks for shutdown if a failure that says so escapes from all its layers, and not
otherwise. Whatever else happens in the meantime, the listener hears first of what was asked for
first, and no request can tell from its answer what is in the channel.
-/

namespace TokenAuthority.Pipeline

/-! ## Blindness -/

def World.withChannel (world : World) (channel : Shutdown.Channel) : World :=
  { world with channel }

def State.withChannel (state : State) (channel : Shutdown.Channel) : State :=
  { state with world := state.world.withChannel channel }

/-- What a handler comes to does not depend on the channel, nor does anything else that it leaves
behind. -/
def Blind (handler : Handler) : Prop :=
  ∀ context state channel, ∃ other,
    handler context (state.withChannel channel) =
      ((handler context state).1, (handler context state).2.withChannel other)

section Layers

variable {next layer : Handler}

theorem Blind.around (blind : Blind next) (entering : Context → State → State)
    (leaving : Context → Outcome × State → Outcome × State)
    (isLayer : ∀ context state,
      layer context state = leaving context (next context (entering context state)))
    (enters : ∀ context state channel,
      entering context (state.withChannel channel) = (entering context state).withChannel channel)
    (leaves : ∀ context outcome state channel,
      leaving context (outcome, state.withChannel channel) =
        ((leaving context (outcome, state)).1,
          (leaving context (outcome, state)).2.withChannel channel)) :
    Blind layer := by
  intro context state channel
  rcases blind context (entering context state) channel with ⟨other, same⟩
  refine ⟨other, ?_⟩
  rw [isLayer, isLayer, enters, same]
  exact leaves ..

theorem blind_logger (blind : Blind next) : Blind (logger next) := by
  refine blind.around (fun context state => state.log (.requestStarted context.subject)) closeLog
    (fun _ _ => logger_eq) (fun _ _ _ => rfl) ?_
  intro context outcome state channel
  cases outcome <;> rfl

theorem blind_boundary (blind : Blind next) (table : StatusTable) :
    Blind (boundary table next) := by
  refine blind.around (fun _ => id) (fun _ => translate table) (fun _ _ => boundary_eq)
    (fun _ _ _ => rfl) ?_
  intro context outcome state channel
  cases outcome with
  | response response => rfl
  | panic panic => rfl
  | failure failure => cases failure <;> rfl

theorem blind_meter (blind : Blind next) : Blind (meter next) := by
  refine blind.around (fun _ state => state.count Counters.enter) (fun _ => tally)
    (fun _ _ => meter_eq) (fun _ _ _ => rfl) ?_
  intro context outcome state channel
  cases outcome <;> rfl

theorem blind_safetyNet (blind : Blind next) : Blind (safetyNet next) := by
  refine blind.around (fun _ => id) (fun _ => contain) (fun _ _ => safetyNet_eq)
    (fun _ _ _ => rfl) ?_
  intro context outcome state channel
  cases outcome <;> rfl

theorem blind_marker (blind : Blind next) (name : String) : Blind (marker name next) := by
  refine blind.around
    (fun _ state => state.note (name ++ " in " ++ Nat.repr state.recorded.code))
    (fun _ => noteLeaving name) (fun _ _ => marker_eq name) (fun _ _ _ => rfl) ?_
  intro context outcome state channel
  cases outcome <;> rfl

namespace Authority

theorem identify_withChannel (who : Authority) (context : Context) (state : State)
    (channel : Shutdown.Channel) :
    who.identify context (state.withChannel channel) =
      ((who.identify context state).1, (who.identify context state).2.withChannel channel) := by
  cases who <;> rfl

theorem grant_withChannel (whether : Authority) (rule : String) (caller : Identity) (target : Uuid)
    (deadline : Nat) (state : State) (channel : Shutdown.Channel) :
    whether.grant rule caller target deadline (state.withChannel channel) =
      ((whether.grant rule caller target deadline state).1,
        (whether.grant rule caller target deadline state).2.withChannel channel) := by
  cases whether with
  | atHand engine =>
      have sameClock : (state.withChannel channel).world.clock = state.world.clock := rfl
      simp only [grant, sameClock]
      split <;> rfl
  | elsewhere client => rfl

end Authority

theorem blind_authenticate (blind : Blind next) (who : Authority) :
    Blind (who.authenticate next) := by
  intro context state channel
  rw [who.authenticate_eq, who.authenticate_eq, who.identify_withChannel]
  rcases who.identify context state with ⟨outcome | caller, after⟩
  · exact ⟨channel, rfl⟩
  · exact blind _ after channel

theorem blind_authorize (blind : Blind next) (whether : Authority) (rule : String) :
    Blind (whether.authorize rule next) := by
  intro context state channel
  cases known : context.identity with
  | none =>
      rw [whether.authorize_of_unattached rule next known,
        whether.authorize_of_unattached rule next known]
      exact ⟨channel, rfl⟩
  | some caller =>
      cases isTarget : targetOf context caller with
      | error failure =>
          rw [whether.authorize_of_badTarget rule next known isTarget,
            whether.authorize_of_badTarget rule next known isTarget]
          exact ⟨channel, rfl⟩
      | ok target =>
          rw [whether.authorize_of_target rule next known isTarget,
            whether.authorize_of_target rule next known isTarget, whether.grant_withChannel]
          rcases whether.grant rule caller target context.deadline state with ⟨outcome | _, after⟩
          · exact ⟨channel, rfl⟩
          · exact blind context after channel

theorem blind_layer (blind : Blind next) (layer : Layer) : Blind (layer.middleware next) := by
  cases layer with
  | logger => exact blind_logger blind
  | boundary table => exact blind_boundary blind table
  | meter => exact blind_meter blind
  | safetyNet => exact blind_safetyNet blind
  | marker name => exact blind_marker blind name
  | authenticate who => exact blind_authenticate blind who
  | authorize whether rule => exact blind_authorize blind whether rule

theorem blind_wrapLayers (blind : Blind next) (layers : List Layer) :
    Blind (wrapLayers layers next) := by
  induction layers with
  | nil => exact blind
  | cons layer layers induction => exact blind_layer induction layer

end Layers

/-! ## Blind applications -/

def BlindServer (server : Responder) : Prop :=
  ∀ request world channel, ∃ other,
    server request (world.withChannel channel) =
      ((server request world).1, (server request world).2.withChannel other)

theorem blind_always (response : Http.Response) : BlindServer (App.always response) :=
  fun _ _ channel => ⟨channel, rfl⟩

theorem blind_guard {server : Responder} (blind : BlindServer server) (gate : Gate) :
    BlindServer (gate.guard server) := by
  intro request world channel
  unfold Gate.guard
  cases gate.receive request with
  | error response => exact ⟨channel, rfl⟩
  | ok received =>
      rcases blind received world channel with ⟨other, same⟩
      refine ⟨other, ?_⟩
      dsimp only
      rw [same]

theorem blind_guardAll {server : Responder} (blind : BlindServer server) (gates : List Gate) :
    BlindServer (Gate.guardAll gates server) := by
  induction gates with
  | nil => exact blind
  | cons gate gates induction => exact blind_guard induction gate

namespace App

variable {app : App} {handler : Handler}

theorem conclude_withChannel (app : App) (outcome : Outcome) (state : State)
    (channel : Shutdown.Channel) :
    ∃ other, app.conclude outcome (state.withChannel channel) =
      ((app.conclude outcome state).1, (app.conclude outcome state).2.withChannel other) := by
  cases outcome with
  | response response => exact ⟨channel, rfl⟩
  | panic panic => exact ⟨channel, rfl⟩
  | failure failure =>
      cases failure with
      | shutdown reason =>
          exact ⟨(channel.signal (Failure.shutdown reason).message).1, rfl⟩
      | _ => exact ⟨channel, rfl⟩

theorem blind_serveRoute (blind : Blind handler) (capture : Http.Pattern.Capture) :
    BlindServer (app.serveRoute handler capture) := by
  intro request world channel
  have sameContext : app.context? capture request (world.withChannel channel) =
      app.context? capture request world := rfl
  cases isContext : app.context? capture request world with
  | none =>
      rw [serveRoute_of_noContext isContext, serveRoute_of_noContext (sameContext.trans isContext)]
      exact ⟨channel, rfl⟩
  | some context =>
      rcases blind context { world } channel with ⟨between, same⟩
      rcases app.conclude_withChannel (handler context { world }).1 (handler context { world }).2
        between with ⟨other, concluded⟩
      refine ⟨other, ?_⟩
      have start : State.withChannel { world } channel = { world := world.withChannel channel } :=
        rfl
      rw [start] at same
      simp only [serveRoute, sameContext, isContext, same, concluded]
      rfl

theorem mem_of_routeFor? {method : String} {routes : List Route} {route : Route}
    (found : routeFor? method routes = some route) : route ∈ routes := by
  simp only [routeFor?] at found
  split at found
  · rw [Option.orElse_eq_orElse, Option.orElse_eq_or] at found
    rcases Option.or_eq_some_iff.mp found with found | ⟨_, found⟩
    · exact List.mem_of_find?_eq_some found
    · exact List.mem_of_find?_eq_some found
  · exact List.mem_of_find?_eq_some found

theorem mem_of_destination {method path : String} {capture : Http.Pattern.Capture}
    (found : app.destination method path = .route handler capture) :
    ∃ route ∈ app.routes, route.handler = handler := by
  unfold destination at found
  split at found
  · cases found
  · dsimp only at found
    split at found
    · rename_i route isRoute
      cases found
      exact ⟨route, (List.mem_filter.mp (mem_of_routeFor? isRoute)).1, rfl⟩
    · cases found

theorem blind_serve (blind : ∀ route ∈ app.routes, Blind route.handler) :
    BlindServer app.serve := by
  intro request world channel
  unfold serve
  cases destination : app.destination request.method request.target.path with
  | nowhere =>
      rcases blind_guardAll (blind_always { status := .notFound }) app.gates request world channel
        with ⟨other, same⟩
      exact ⟨other, by simp only [same]⟩
  | wrongMethod allowed =>
      rcases blind_guardAll (blind_always { status := .methodNotAllowed }) app.gates request world
        channel with ⟨other, same⟩
      exact ⟨other, by simp only [same]⟩
  | route handler capture =>
      rcases mem_of_destination destination with ⟨route, member, rfl⟩
      have blindRoute : BlindServer (app.serveRoute route.handler capture) :=
        blind_serveRoute (blind route member) capture
      rcases blind_guardAll blindRoute app.gates request world channel with ⟨other, same⟩
      exact ⟨other, by simp only [same]⟩

end App

/-! ## One request -/

namespace Outcome

def reason? (outcome : Outcome) : Option String :=
  outcome.stop?.map Failure.message

theorem reason?_eq_some_iff {outcome : Outcome} {words : String} :
    outcome.reason? = some words ↔
      ∃ reason, outcome = .failure (.shutdown reason) ∧
        words = "shutdown requested: " ++ reason := by
  constructor
  · intro asks
    cases outcome with
    | response response => cases asks
    | panic panic => cases asks
    | failure failure =>
        cases failure with
        | shutdown reason =>
            cases asks
            exact ⟨reason, rfl, rfl⟩
        | _ => cases asks
  · rintro ⟨reason, rfl, rfl⟩
    rfl

end Outcome

theorem fst_wrap_global_eq_failure_iff {table : StatusTable} {inner : Handler} {context : Context}
    {state : State} {failure : Failure} :
    (wrap (global table) inner context state).1 = .failure failure ↔
      failure.isShutdown = true ∧ (inner context (enter context state)).1 = .failure failure := by
  rw [wrap_global]
  rcases inner context (enter context state) with ⟨outcome, ended⟩
  cases outcome with
  | response response =>
      constructor
      · rintro ⟨⟩
      · rintro ⟨_, ⟨⟩⟩
  | panic panic =>
      constructor
      · rintro ⟨⟩
      · rintro ⟨_, ⟨⟩⟩
  | failure given =>
      cases given with
      | shutdown reason =>
          constructor
          · rintro ⟨⟩
            exact ⟨rfl, rfl⟩
          · exact And.right
      | _ =>
          constructor
          · rintro ⟨⟩
          · rintro ⟨stops, ⟨⟩⟩
            cases stops

namespace App

variable {app : App} {outcome : Outcome} {state : State}

theorem channel_conclude :
    (app.conclude outcome state).2.world.channel =
      outcome.reason?.elim state.world.channel fun words =>
        (state.world.channel.signal words).1 := by
  cases outcome with
  | response response => rfl
  | panic panic => rfl
  | failure failure => cases failure <;> rfl

theorem log_conclude :
    (app.conclude outcome state).2.world.log =
      state.world.log ++ (outcome.reason?.map Log.Event.shutdownRequested).toList := by
  cases outcome with
  | response response => exact (List.append_nil _).symm
  | panic panic => exact (List.append_nil _).symm
  | failure failure =>
      cases failure with
      | shutdown reason => rfl
      | _ => exact (List.append_nil _).symm

end App

/-! ## Many requests -/

/-- What can happen to the world while requests are on their way. -/
inductive Happening where
  /-- Anything but the channel changes: a request arrives, or runs for a while. -/
  | work (change : World → World) (keeps : ∀ world, (change world).channel = world.channel)
  /-- Of a request of some application everything inside has ended. -/
  | ending (app : App) (outcome : Outcome) (recorded : Http.Status)
  /-- Somebody else uses the channel. -/
  | use (move : Shutdown.Move)

namespace Happening

def effect (world : World) : Happening → World
  | .work change _ => change world
  | .ending app outcome recorded => (app.conclude outcome { world, recorded }).2.world
  | .use move => world.withChannel (move.act world.channel)

/-- What it does to the channel. -/
def moves : Happening → List Shutdown.Move
  | .work _ _ => []
  | .ending _ outcome _ => (outcome.reason?.map Shutdown.Move.signal).toList
  | .use move => [move]

def reason? : Happening → Option String
  | .work _ _ => none
  | .ending _ outcome _ => outcome.reason?
  | .use move => move.reason?

theorem channel_effect (world : World) (happening : Happening) :
    (happening.effect world).channel = happening.moves.foldl Shutdown.Move.act world.channel := by
  cases happening with
  | work change keeps => exact keeps world
  | use move => rfl
  | ending app outcome recorded =>
      simp only [effect, moves, App.channel_conclude]
      cases outcome.reason? <;> rfl

theorem channel_foldl_effect (world : World) (happenings : List Happening) :
    (happenings.foldl effect world).channel =
      (happenings.flatMap moves).foldl Shutdown.Move.act world.channel := by
  induction happenings generalizing world with
  | nil => rfl
  | cons happening rest induction =>
      rw [List.foldl_cons, induction, channel_effect, List.flatMap_cons, List.foldl_append]

theorem filterMap_moves (happenings : List Happening) :
    (happenings.flatMap moves).filterMap Shutdown.Move.reason? = happenings.filterMap reason? := by
  induction happenings with
  | nil => rfl
  | cons happening rest induction =>
      have one : happening.moves.filterMap Shutdown.Move.reason? = happening.reason?.toList := by
        cases happening with
        | work change keeps => rfl
        | use move => cases move <;> rfl
        | ending app outcome recorded =>
            simp only [moves, reason?]
            cases outcome.reason? <;> rfl
      rw [List.flatMap_cons, List.filterMap_append, induction, one, List.filterMap_cons]
      cases happening.reason? <;> rfl

end Happening

open Happening Shutdown in
/-- A request asks for shutdown exactly if the failure that escapes from its chain is one that stops
the service. A reason is taken exactly if none is pending and there is a listener, which receives
first what was asked for first. What a request is answered does not depend on the channel. -/
theorem shutdown_exact (app : App) :
    (∀ outcome words, Outcome.reason? outcome = some words ↔
      ∃ reason, outcome = .failure (.shutdown reason) ∧
        words = "shutdown requested: " ++ reason) ∧
    (∀ handler capture request world,
      match app.context? capture request world with
      | none => app.serveRoute handler capture request world = (.error App.untimed, world)
      | some context =>
          let outcome := (handler context { world }).1
          let ended := (handler context { world }).2
          let after := (app.serveRoute handler capture request world).2
          after = effect ended.world (.ending app outcome ended.recorded) ∧
          after.channel = outcome.reason?.elim ended.world.channel (fun words =>
            (ended.world.channel.signal words).1) ∧
          after.log = ended.world.log ++
            (outcome.reason?.map Log.Event.shutdownRequested).toList) ∧
    (∀ table inner context state failure,
      (wrap (global table) inner context state).1 = .failure failure ↔
        failure.isShutdown = true ∧
          (inner context (enter context state)).1 = .failure failure) ∧
    (∀ (channel : Channel) reason, (channel.signal reason).2 = true ↔
      channel.hasListener = true ∧ channel.pending = none) ∧
    (∀ (world : World) (happenings : List Happening), world.channel.pending = none →
      let ledger := Ledger.run { channel := world.channel } (happenings.flatMap moves)
      ledger.channel = (happenings.foldl effect world).channel ∧
      ledger.asked = happenings.filterMap reason? ∧
      (∀ reason ∈ ledger.received.head?, reason ∈ ledger.asked.head?) ∧
      (ledger.channel.hasListener = true →
        ledger.taken = ledger.received ++ ledger.channel.pending.toList ∧
        (ledger.received = [] → ∀ reason ∈ ledger.asked.head?,
          ledger.channel.receive.2 = .reason reason))) ∧
    (∀ outcome state other, (app.conclude outcome state).1 = (app.conclude outcome other).1) ∧
    (∀ layers handler, Blind handler → Blind (wrapLayers layers handler)) ∧
    ((∀ route ∈ app.routes, Blind route.handler) → BlindServer app.serve) := by
  refine ⟨fun _ _ => Outcome.reason?_eq_some_iff, ?_,
    fun _ _ _ _ _ => fst_wrap_global_eq_failure_iff, fun _ _ => Channel.signal_eq_true_iff, ?_, ?_,
    fun layers _ blind => blind_wrapLayers blind layers, App.blind_serve⟩
  · intro handler capture request world
    cases isContext : app.context? capture request world with
    | none => exact App.serveRoute_of_noContext isContext handler
    | some context =>
        have served : app.serveRoute handler capture request world =
            ((app.conclude (handler context { world }).1 (handler context { world }).2).1,
              (app.conclude (handler context { world }).1 (handler context { world }).2).2.world) :=
          by simp only [App.serveRoute, isContext]
        dsimp only
        rw [served]
        exact ⟨rfl, App.channel_conclude, App.log_conclude⟩
  · intro world happenings fresh ledger
    have sound : ledger.Sound := (Ledger.sound_start fresh).run _
    refine ⟨?_, ?_, sound.head?_received, fun listener => ⟨(sound.complete listener).symm, ?_⟩⟩
    · rw [Ledger.channel_run, channel_foldl_effect]
    · rw [Ledger.asked_run, filterMap_moves]
      exact List.nil_append _
    · intro nothing reason first
      exact sound.receive_eq listener nothing first
  · intro outcome state other
    cases outcome <;> rfl

/-! A request that stops the service, and others that ask for it later or not at all. -/

def stoppingHandler : Handler := fun _ state => (.failure (.shutdown "disk gone"), state)

def stoppingApp : App :=
  plainApp.handle "GET" ⟨[.literal []]⟩ stoppingHandler

def stoppingRun : List Happening :=
  [.ending stoppingApp (.panic { words := some "too late" }) .ok,
   .ending stoppingApp (.failure (.shutdown "disk gone")) .ok,
   .use (.signal "terminated"),
   .ending stoppingApp (.failure (.classified .unavailable "busy")) .ok]

theorem stoppingApp_stops :
    (∀ route ∈ stoppingApp.routes, Blind route.handler) ∧ BlindServer stoppingApp.serve ∧
      plainWorld.channel.pending = none ∧
      stoppingRun.filterMap Happening.reason? =
        ["shutdown requested: disk gone", "terminated"] ∧
      (stoppingRun.foldl Happening.effect plainWorld).channel.receive.2 =
        .reason "shutdown requested: disk gone" := by
  have blind : ∀ route ∈ stoppingApp.routes, Blind route.handler := by
    intro route member
    rcases List.mem_singleton.mp member with rfl
    have bare : Blind stoppingHandler := fun _ _ channel => ⟨channel, rfl⟩
    exact blind_wrapLayers bare [.logger, .boundary {}, .meter, .safetyNet]
  rcases shutdown_exact stoppingApp with ⟨_, _, _, _, runs, _, _, blindServer⟩
  rcases runs plainWorld stoppingRun rfl with ⟨sameChannel, _, _, kept⟩
  refine ⟨blind, blindServer blind, rfl, rfl, ?_⟩
  rw [← sameChannel]
  exact (kept rfl).2 rfl _ rfl

end TokenAuthority.Pipeline

/-! ## The service -/

namespace TokenAuthority.Service

open Pipeline

variable (service : Service)

theorem blind_permits : Blind service.permits := by
  intro context state channel
  refine ⟨channel, ?_⟩
  have sameTime : (state.withChannel channel).world.now = state.world.now := rfl
  rw [permits, permits, sameTime]
  cases (context.decode (Json.Document.meaning? Inquiry.ofDocument?)).1 with
  | error failure => rfl
  | ok inquiry =>
      by_cases noRule : inquiry.rule.isEmpty = true
      · simp only [noRule, if_true]
      · simp only [noRule]
        cases service.engine.authorize state.world.now inquiry.claims inquiry.userId
          inquiry.rule with
        | error fault => rfl
        | ok done => rfl

theorem blind_renew : Blind service.renew := by
  intro context state channel
  refine ⟨channel, ?_⟩
  rw [renew, renew]
  by_cases noKey : ((context.parameter? keyParameter).getD "").isEmpty = true
  · simp only [noKey, if_true]
  · simp only [noKey]
    cases context.identity with
    | none => rfl
    | some caller =>
        dsimp only
        cases (service.engine.issue ((context.parameter? keyParameter).getD "") caller.claims).value
        with
        | error fault => rfl
        | ok token => rfl

theorem blind_whoAmI : Blind whoAmI := by
  intro context state channel
  refine ⟨channel, ?_⟩
  unfold whoAmI
  split <;> rfl

theorem blind_serve : BlindServer service.app.serve := by
  apply App.blind_serve
  have guarded {handler : Handler} (blind : Blind handler) :
      Blind (wrap (global service.table) (wrap [authenticate service.engine] handler)) :=
    blind_wrapLayers (blind_wrapLayers blind [.authenticate (.atHand service.engine)])
      [.logger, .boundary service.table, .meter, .safetyNet]
  intro route member
  simp only [app, App.handle, App.handleBare, List.nil_append, List.cons_append,
    List.mem_cons, List.not_mem_nil, or_false] at member
  rcases member with rfl | rfl | rfl | rfl | rfl
  · exact fun _ _ channel => ⟨channel, rfl⟩
  · exact fun _ _ channel => ⟨channel, rfl⟩
  · dsimp only
    exact guarded service.blind_renew
  · dsimp only
    exact guarded blind_whoAmI
  · dsimp only
    exact blind_wrapLayers service.blind_permits
      [.logger, .boundary service.table, .meter, .safetyNet]

end TokenAuthority.Service

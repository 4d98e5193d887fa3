import TokenAuthority.Proofs.Pipeline.Stopping

/-!
# The status that is logged

The log says of a request with which status it is complete before the application has answered it.
Yet this is the status that is sent, whatever the request comes to: with a response it was recorded
when that was made, and with a failure it is the one that the table has for it, which the boundary
and the application share.
-/

namespace TokenAuthority.Pipeline

/-! ## Recorded statuses -/

theorem status_json (status : Http.Status) (body : String) :
    (Http.Response.json status body).status = status := by
  unfold Http.Response.json
  split <;> rfl

/-- What it answers with, and what is recorded by then, is left by its last call of `respond`. -/
def Responds (handler : Handler) : Prop :=
  ∀ context state response ended, handler context state = (.response response, ended) →
    ∃ status body between, response = (respond status body between).1 ∧
      ended.recorded = (respond status body between).2.recorded

def Records (handler : Handler) : Prop :=
  ∀ context state response ended, handler context state = (.response response, ended) →
    ended.recorded = response.status

variable {handler next : Handler}

theorem Responds.records (responds : Responds handler) : Records handler := by
  intro context state response ended isResponse
  rcases responds context state response ended isResponse with
    ⟨status, body, between, rfl, isRecorded⟩
  exact isRecorded.trans (status_json status body).symm

def Silent (handler : Handler) : Prop :=
  ∀ context state, (handler context state).2.world.log = state.world.log

/-! ## Guards -/

def TurnsAway {Verdict : Type} (decision : Except Outcome Verdict) : Prop :=
  ∀ outcome, decision = .error outcome → outcome.fails = true

theorem turnsAway_error {Verdict : Type} {outcome : Outcome} (fails : outcome.fails = true) :
    TurnsAway (.error outcome : Except Outcome Verdict) := by
  intro other same
  cases same
  exact fails

theorem turnsAway_mapError {Fault Verdict : Type} {ending : Fault → Outcome}
    (fails : ∀ fault, (ending fault).fails = true) (verdict : Except Fault Verdict) :
    TurnsAway (verdict.mapError ending) := by
  cases verdict with
  | ok value => exact fun _ impossible => nomatch impossible
  | error fault => exact turnsAway_error (fails fault)

theorem fails_refused (fault : Token.AuthError) : (refused fault).fails = true := by
  unfold refused
  split <;> rfl

namespace Authority

theorem turnsAway_identify (who : Authority) (context : Context) (state : State) :
    TurnsAway (who.identify context state).1 := by
  cases who with
  | elsewhere client => exact turnsAway_mapError (fun _ => rfl) _
  | atHand engine =>
      simp only [identify, Pipeline.identify]
      split
      · exact turnsAway_error rfl
      · exact turnsAway_error (fails_refused _)
      · exact turnsAway_mapError (fun fault => fails_refused (.invalidSubject fault)) _

theorem log_identify (who : Authority) (context : Context) (state : State) :
    (who.identify context state).2.world.log = state.world.log := by
  cases who <;> rfl

variable (whether : Authority) (rule : String) (caller : Identity) (target : Uuid) (deadline : Nat)
  (state : State)

theorem turnsAway_grant : TurnsAway (whether.grant rule caller target deadline state).1 := by
  cases whether with
  | elsewhere client => exact turnsAway_mapError (fun _ => rfl) _
  | atHand engine =>
      simp only [grant]
      split
      · exact turnsAway_error rfl
      · exact turnsAway_mapError fails_refused _

theorem log_grant : (whether.grant rule caller target deadline state).2.world.log =
    state.world.log := by
  cases whether with
  | elsewhere client => rfl
  | atHand engine =>
      simp only [grant]
      split <;> rfl

end Authority

/-- What a guard comes to, with nothing logged by it: what is inside it runs, or there is no
response. -/
inductive Guarded (next : Handler) (state : State) : Outcome × State → Prop
  | through (inner : Context) {held : State} (sameLog : held.world.log = state.world.log) :
      Guarded next state (next inner held)
  | away {outcome : Outcome} {held : State} (fails : outcome.fails = true)
      (sameLog : held.world.log = state.world.log) : Guarded next state (outcome, held)

def Layer.isGuard : Layer → Bool
  | .authenticate _ | .authorize _ _ => true
  | _ => false

variable {layer : Layer}

theorem guarded_layer (isGuard : layer.isGuard = true) (next : Handler) (context : Context)
    (state : State) : Guarded next state (layer.middleware next context state) := by
  cases layer with
  | logger => cases isGuard
  | boundary table => cases isGuard
  | meter => cases isGuard
  | safetyNet => cases isGuard
  | marker name => cases isGuard
  | authenticate who =>
      rw [Layer.middleware, who.authenticate_eq]
      have turnsAway := who.turnsAway_identify context state
      have sameLog := who.log_identify context state
      generalize who.identify context state = decision at turnsAway sameLog ⊢
      rcases decision with ⟨outcome | caller, after⟩
      · exact .away (turnsAway outcome rfl) sameLog
      · exact .through _ sameLog
  | authorize whether rule =>
      rw [Layer.middleware]
      cases known : context.identity with
      | none =>
          rw [whether.authorize_of_unattached rule next known]
          exact .away rfl rfl
      | some caller =>
          cases isTarget : targetOf context caller with
          | error failure =>
              rw [whether.authorize_of_badTarget rule next known isTarget]
              exact .away rfl rfl
          | ok target =>
              rw [whether.authorize_of_target rule next known isTarget]
              have turnsAway := whether.turnsAway_grant rule caller target context.deadline state
              have sameLog := whether.log_grant rule caller target context.deadline state
              generalize whether.grant rule caller target context.deadline state = decision
                at turnsAway sameLog ⊢
              rcases decision with ⟨outcome | done, after⟩
              · exact .away (turnsAway outcome rfl) sameLog
              · exact .through _ sameLog

theorem records_guard (isGuard : layer.isGuard = true) (records : Records next) :
    Records (layer.middleware next) := by
  intro context state response ended isResponse
  have guarded := guarded_layer isGuard next context state
  rw [isResponse] at guarded
  generalize isResult : (Outcome.response response, ended) = result at guarded
  cases guarded with
  | through inner sameLog => exact records inner _ response ended isResult.symm
  | away fails sameLog =>
      cases isResult
      cases fails

theorem silent_guard (isGuard : layer.isGuard = true) (silent : Silent next) :
    Silent (layer.middleware next) := by
  intro context state
  have guarded := guarded_layer isGuard next context state
  generalize layer.middleware next context state = result at guarded ⊢
  cases guarded with
  | through inner sameLog => exact (silent inner _).trans sameLog
  | away fails sameLog => exact sameLog

section Chains

variable {guards : List Layer} (areGuards : ∀ layer ∈ guards, layer.isGuard = true)

include areGuards

theorem wrapLayers_induction {Keeps : Handler → Prop}
    (step : ∀ (layer : Layer) (next : Handler), layer.isGuard = true → Keeps next →
      Keeps (layer.middleware next))
    (kept : Keeps handler) : Keeps (wrapLayers guards handler) := by
  induction guards with
  | nil => exact kept
  | cons layer guards induction =>
      apply step layer _ (areGuards layer List.mem_cons_self)
      exact induction fun other member => areGuards other (List.mem_cons_of_mem _ member)

theorem records_wrapLayers (records : Records handler) : Records (wrapLayers guards handler) :=
  wrapLayers_induction areGuards (fun _ _ => records_guard) records

theorem silent_wrapLayers (silent : Silent handler) : Silent (wrapLayers guards handler) :=
  wrapLayers_induction areGuards (fun _ _ => silent_guard) silent

end Chains

/-! ## Routes -/

def isCompletion (event : Log.Event) : Bool :=
  event.message == "request completed"

theorem Outcome.status_answer {outcome : Outcome} {recorded : Http.Status}
    (records : ∀ response, outcome = .response response → recorded = response.status)
    (table : StatusTable) : outcome.status table recorded = (outcome.answer table).status := by
  cases outcome with
  | response response => exact records response rfl
  | failure failure => exact (status_json ..).symm
  | panic panic => exact (status_json ..).symm

/-- Of what is logged from a world on, at most one event says that a request is complete, and then
with the status that is sent. -/
def Agrees (world : World) (served : Except Panic Http.Response × World) : Prop :=
  ∃ events, served.2.log = world.log ++ events ∧
    (events.filter isCompletion = [] ∨
      ∃ subject response, served.1 = .ok response ∧
        events.filter isCompletion = [.requestCompleted subject response.status])

def Truthful (server : Responder) : Prop :=
  ∀ request world, Agrees world (server request world)

section Answers

variable {world : World} {served : Except Panic Http.Response × World}

theorem agrees_of_sameLog (sameLog : served.2.log = world.log) : Agrees world served :=
  ⟨[], by rw [sameLog, List.append_nil], .inl rfl⟩

theorem Agrees.map (agrees : Agrees world served) {change : Http.Response → Http.Response}
    (keeps : ∀ response, (change response).status = response.status) :
    Agrees world (served.1.map change, served.2) := by
  rcases agrees with ⟨events, isLog, none | ⟨subject, response, isResponse, one⟩⟩
  · exact ⟨events, isLog, .inl none⟩
  · refine ⟨events, isLog, .inr ⟨subject, change response, ?_, ?_⟩⟩
    · rw [isResponse]
      rfl
    · rw [keeps, one]

end Answers

namespace App

variable {app : App} {capture : Http.Pattern.Capture} {request : Http.Request} {world : World}
  {inner : Handler} {context : Context}

theorem completed_serveRoute (layered : app.layers = global app.table)
    (isContext : app.context? capture request world = some context) (records : Records inner) :
    let ended := inner context (enter context { world })
    let answer := ended.1.answer app.table
    ∃ closing,
      (app.serveRoute (wrap app.layers inner) capture request world).1 = .ok answer ∧
      (app.serveRoute (wrap app.layers inner) capture request world).2.log =
        ended.2.world.log ++ closing ∧
      closing.filter isCompletion = [.requestCompleted context.subject answer.status] := by
  rw [serveRoute_of_context layered isContext]
  rcases comesTo : inner context (enter context { world }) with ⟨outcome, ended⟩
  refine ⟨outcome.closing app.table context.subject ended.recorded, answer_finish, log_finish, ?_⟩
  have recorded : ∀ response, outcome = .response response → ended.recorded = response.status := by
    intro response isResponse
    rw [isResponse] at comesTo
    exact records _ _ _ _ comesTo
  rw [← Outcome.status_answer recorded app.table]
  exact (outcome.events_closing app.table context.subject ended.recorded).2.1

theorem truthful_serveRoute (layered : app.layers = global app.table) (records : Records inner)
    (silent : Silent inner) (capture : Http.Pattern.Capture) :
    Truthful (app.serveRoute (wrap app.layers inner) capture) := by
  intro request world
  cases isContext : app.context? capture request world with
  | none =>
      rw [serveRoute_of_noContext isContext]
      exact agrees_of_sameLog rfl
  | some context =>
      rcases completed_serveRoute layered isContext records with
        ⟨closing, isAnswer, isLog, completed⟩
      refine ⟨.requestStarted context.subject :: closing, ?_, .inr ⟨_, _, isAnswer, completed⟩⟩
      have entered : (enter context { world }).world.log =
          world.log ++ [.requestStarted context.subject] := rfl
      rw [isLog, silent, entered, List.append_assoc]
      rfl

theorem truthful_bare {handler : Handler} (silent : Silent handler)
    (capture : Http.Pattern.Capture) : Truthful (app.serveRoute handler capture) := by
  intro request world
  cases isContext : app.context? capture request world with
  | none =>
      rw [serveRoute_of_noContext isContext]
      exact agrees_of_sameLog rfl
  | some context =>
      simp only [serveRoute, isContext]
      refine ⟨((handler context { world }).1.reason?.map Log.Event.shutdownRequested).toList, ?_,
        .inl ?_⟩
      · rw [log_conclude, silent]
      · cases (handler context { world }).1.reason? <;> rfl

end App

/-! ## Applications -/

def Gate.KeepsStatus (gate : Gate) : Prop :=
  ∀ response, (gate.release response).status = response.status

variable {server : Responder}

theorem truthful_always (response : Http.Response) : Truthful (App.always response) :=
  fun _ _ => agrees_of_sameLog rfl

theorem truthful_guard (truthful : Truthful server) {gate : Gate} (keeps : gate.KeepsStatus) :
    Truthful (gate.guard server) := by
  intro request world
  unfold Gate.guard
  cases gate.receive request with
  | error response => exact agrees_of_sameLog rfl
  | ok received => exact (truthful received world).map keeps

theorem truthful_guardAll (truthful : Truthful server) {gates : List Gate}
    (keep : ∀ gate ∈ gates, gate.KeepsStatus) : Truthful (Gate.guardAll gates server) := by
  induction gates with
  | nil => exact truthful
  | cons gate gates induction =>
      apply truthful_guard _ (keep gate List.mem_cons_self)
      exact induction fun other member => keep other (List.mem_cons_of_mem _ member)

namespace App

theorem status_sentBack (method : String) (response : Http.Response) :
    (sentBack method response).status = response.status := by
  unfold sentBack
  split <;> rfl

theorem status_withAllowed (allowed : String) (response : Http.Response) :
    (withAllowed allowed response).status = response.status := by
  unfold withAllowed
  split <;> rfl

theorem truthful_serve {app : App} (keep : ∀ gate ∈ app.gates, gate.KeepsStatus)
    (truthful : ∀ route ∈ app.routes, ∀ capture, Truthful (app.serveRoute route.handler capture)) :
    Truthful app.serve := by
  intro request world
  unfold serve
  cases destination : app.destination request.method request.target.path with
  | nowhere =>
      exact (truthful_guardAll (truthful_always _) keep request world).map (status_sentBack _)
  | wrongMethod allowed =>
      have answered := truthful_guardAll (truthful_always { status := .methodNotAllowed }) keep
        request world
      exact (answered.map (status_withAllowed allowed)).map (status_sentBack _)
  | route handler capture =>
      rcases mem_of_destination destination with ⟨route, member, rfl⟩
      exact (truthful_guardAll (truthful route member capture) keep request world).map
        (status_sentBack _)

end App

end TokenAuthority.Pipeline

/-! ## The service -/

namespace TokenAuthority.Service

open Pipeline

variable (service : Service)

inductive Handled (state : State) : Outcome × State → Prop
  | responds (status : Http.Status) (body : String) {between : State}
      (sameLog : between.world.log = state.world.log) :
      Handled state (answered (respond status body between))
  | fails {outcome : Outcome} {held : State} (fails : outcome.fails = true)
      (sameLog : held.world.log = state.world.log) : Handled state (outcome, held)

section Handled

variable {handler : Handler}
  (handled : ∀ context state, Handled state (handler context state))

include handled

theorem responds_of_handled : Responds handler := by
  intro context state response ended isResponse
  have result := handled context state
  rw [isResponse] at result
  generalize isResult : (Outcome.response response, ended) = given at result
  cases result with
  | fails fails sameLog =>
      cases isResult
      cases fails
  | @responds status body between sameLog =>
      cases isResult
      exact ⟨status, body, between, rfl, rfl⟩

theorem silent_of_handled : Silent handler := by
  intro context state
  have result := handled context state
  generalize handler context state = given at result ⊢
  cases result with
  | responds status body sameLog => exact sameLog
  | fails fails sameLog => exact sameLog

end Handled

theorem handled_renew (context : Context) (state : State) :
    Handled state (service.renew context state) := by
  dsimp only [renew]
  split
  · exact .fails rfl rfl
  · split
    · exact .fails rfl rfl
    · split
      · exact .fails rfl rfl
      · exact .responds _ _ rfl

theorem handled_whoAmI (context : Context) (state : State) :
    Handled state (whoAmI context state) := by
  unfold whoAmI
  split
  · exact .fails rfl rfl
  · exact .responds _ _ rfl

theorem handled_permits (context : Context) (state : State) :
    Handled state (service.permits context state) := by
  unfold permits
  split
  · exact .fails rfl rfl
  · split
    · exact .fails rfl rfl
    · split
      · exact .fails (fails_refused _) rfl
      · exact .responds _ _ rfl

theorem truthful_route {handler : Handler}
    (handled : ∀ context state, Handled state (handler context state)) {guards : List Layer}
    (areGuards : ∀ layer ∈ guards, layer.isGuard = true) (capture : Http.Pattern.Capture) :
    Truthful (service.app.serveRoute (wrap (global service.table) (wrapLayers guards handler))
      capture) := by
  have layered : service.app.layers = global service.app.table := rfl
  have records : Records (wrapLayers guards handler) :=
    records_wrapLayers areGuards (responds_of_handled handled).records
  have silent : Silent (wrapLayers guards handler) :=
    silent_wrapLayers areGuards (silent_of_handled handled)
  exact App.truthful_serveRoute layered records silent capture

theorem truthful_serve : Truthful service.app.serve := by
  have keep : ∀ gate ∈ service.app.gates, gate.KeepsStatus := by
    intro gate member
    simp only [app, App.handle, App.handleBare, List.mem_cons, List.not_mem_nil, or_false]
      at member
    rcases member with rfl | rfl
    · exact fun _ => rfl
    · exact fun _ => rfl
  have guarded : ∀ layer ∈ [Layer.authenticate (.atHand service.engine)], layer.isGuard = true := by
    simp [Layer.isGuard]
  apply App.truthful_serve keep
  intro route member capture
  simp only [app, App.handle, App.handleBare, List.nil_append, List.cons_append,
    List.mem_cons, List.not_mem_nil, or_false] at member
  rcases member with rfl | rfl | rfl | rfl | rfl
  · exact App.truthful_bare (fun _ _ => rfl) capture
  · exact App.truthful_bare (fun _ _ => rfl) capture
  · dsimp only
    exact service.truthful_route service.handled_renew guarded capture
  · dsimp only
    exact service.truthful_route handled_whoAmI guarded capture
  · dsimp only
    exact service.truthful_route service.handled_permits (List.forall_mem_nil _) capture

end TokenAuthority.Service

namespace TokenAuthority.Pipeline

/-- On a route that `handle` adds behind the four layers and any guards, with a handler that answers
by `respond`, the log says once that the request is complete, with the status of the answer, however
it ends. The service is such an application. -/
theorem logged_status_sent (app : App) (layered : app.layers = global app.table)
    (guards : List Layer) (areGuards : ∀ layer ∈ guards, layer.isGuard = true) (handler : Handler)
    (responds : Responds handler) (method : String) (pattern : Http.Pattern)
    (capture : Http.Pattern.Capture) (request : Http.Request) (world : World) :
    let inner := wrapLayers guards handler
    let chain := wrap app.layers inner
    (app.handle method pattern handler (guards.map Layer.middleware)).routes =
      app.routes ++ [{ method, pattern, handler := chain }] ∧
    (match app.context? capture request world with
    | none => app.serveRoute chain capture request world = (.error App.untimed, world)
    | some context =>
        let ended := inner context (enter context { world })
        let answer := ended.1.answer app.table
        ∃ closing,
          (app.serveRoute chain capture request world).1 = .ok answer ∧
          (app.serveRoute chain capture request world).2.log = ended.2.world.log ++ closing ∧
          closing.filter isCompletion = [.requestCompleted context.subject answer.status]) ∧
    (∀ method response, (App.sentBack method response).status = response.status) ∧
    ∀ service : Service,
      service.app.layers = global service.app.table ∧ Truthful service.app.serve := by
  intro inner chain
  refine ⟨rfl, ?_, App.status_sentBack, fun service => ⟨rfl, service.truthful_serve⟩⟩
  cases isContext : app.context? capture request world with
  | none => exact App.serveRoute_of_noContext isContext chain
  | some context =>
      have records : Records inner := records_wrapLayers areGuards responds.records
      exact App.completed_serveRoute layered isContext records

/-! An application with a status of its own for failures that stop the service, and a handler that
has already responded when it comes to one. -/

def overridden : StatusTable :=
  StatusTable.set {} .unavailable .badRequest

def overriddenApp : App where
  layers := global overridden
  table := overridden

def lateHandler : Handler := fun _ state =>
  (.failure (.shutdown "disk gone"), (respond .ok "true" state).2)

theorem responds_lateHandler : Responds lateHandler :=
  fun _ _ _ _ impossible => nomatch impossible

theorem responds_plainHandler : Responds plainHandler := by
  intro context state response ended isResponse
  cases isResponse
  exact ⟨.ok, "true", state, rfl, rfl⟩

def plainSubject : Log.Subject where
  method := "GET"
  path := "/"
  sender := ""

theorem overriddenApp_logged :
    let guards := [Layer.authorize (.atHand Token.Engine.builtinEngine) "rule_any"]
    let stopping := wrap overriddenApp.layers (wrapLayers [] lateHandler)
    let guarded := wrap overriddenApp.layers (wrapLayers guards plainHandler)
    let stopped := overriddenApp.serveRoute stopping [] plainRequest plainWorld
    let refused := overriddenApp.serveRoute guarded [] plainRequest plainWorld
    stopped.1.map Http.Response.status = .ok .badRequest ∧
      stopped.2.log.filter isCompletion = [.requestCompleted plainSubject .badRequest] ∧
      refused.1.map Http.Response.status = .ok .unauthorized ∧
      refused.2.log.filter isCompletion = [.requestCompleted plainSubject .unauthorized] := by
  intro guards stopping guarded stopped refused
  have areGuards : ∀ layer ∈ guards, layer.isGuard = true := by simp [guards, Layer.isGuard]
  have stops := logged_status_sent overriddenApp rfl [] (List.forall_mem_nil _) lateHandler
    responds_lateHandler "GET" ⟨[.literal []]⟩ [] plainRequest plainWorld
  have refuses := logged_status_sent overriddenApp rfl guards areGuards plainHandler
    responds_plainHandler "GET" ⟨[.literal []]⟩ [] plainRequest plainWorld
  rcases stops.2.1 with ⟨_, stoppedAnswer, stoppedLog, stoppedStatus⟩
  rcases refuses.2.1 with ⟨_, refusedAnswer, refusedLog, refusedStatus⟩
  refine ⟨congrArg (Except.map Http.Response.status) stoppedAnswer, ?_,
    congrArg (Except.map Http.Response.status) refusedAnswer, ?_⟩
  · have filtered := congrArg (List.filter isCompletion) stoppedLog
    rw [List.filter_append, stoppedStatus] at filtered
    exact filtered
  · have filtered := congrArg (List.filter isCompletion) refusedLog
    rw [List.filter_append, refusedStatus] at filtered
    exact filtered

end TokenAuthority.Pipeline

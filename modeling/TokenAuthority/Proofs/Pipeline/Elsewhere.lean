import TokenAuthority.Proofs.Client
import TokenAuthority.Proofs.Pipeline.Passing
import TokenAuthority.Proofs.Remote

/-!
# Guards that ask elsewhere

A guard that leaves its decision to a service elsewhere obeys what its client makes of the reply. A
yes that comes in time lets the request pass. Anything else ends it, whatever is behind the guard,
and the caller is told that it is not authenticated, or that it took too long.
-/

namespace TokenAuthority.Pipeline

open Client (Judged Refusal)

/-! ## Obeying -/

def EndsWith (layer : Middleware) (context : Context) (state : State) (failure : Failure) : Prop :=
  ∃ after, ∀ next, layer next context state = (.failure failure, after)

/-- A layer that has asked elsewhere goes by the verdict: what is behind it runs after a yes, in the
context that the answer makes, and not otherwise. -/
structure Obeys {Answer : Type} (layer : Middleware) (context : Context) (state : State)
    (asked : Awaited (Except Refusal Answer)) (inner : Answer → Context) : Prop where
  permitted : ∀ answer, asked.value = .ok answer → asked.delay ≤ remaining context state →
    ∃ after, ∀ next, layer next context state = next (inner answer) after
  denied : ∀ refusal, asked.value = .error refusal → asked.delay ≤ remaining context state →
    EndsWith layer context state refusal.failure
  late : remaining context state < asked.delay → EndsWith layer context state outOfTime

section Guards

variable {client : Client} {rule : String} {context : Context} {state after : State}
  {caller : Identity} {target : Uuid}

theorem settle_of_inTime {Answer : Type} {asked : Awaited (Except Refusal Answer)} {bound : Nat}
    (inTime : asked.delay ≤ bound) :
    settle (asked.within bound) = asked.value.mapError Refusal.failure := by
  simp only [settle, Awaited.within, Delayed.within, inTime, if_true]
  cases asked.value <;> rfl

theorem settle_of_late {Answer : Type} {asked : Awaited (Except Refusal Answer)} {bound : Nat}
    (late : bound < asked.delay) : settle (asked.within bound) = .error outOfTime := by
  simp only [settle, Awaited.within, Delayed.within, Nat.not_le.mpr late, if_false]

theorem value_of_settle {Answer : Type} {asked : Awaited (Except Refusal Answer)} {bound : Nat}
    {answer : Answer} (settled : settle (asked.within bound) = .ok answer) :
    asked.value = .ok answer := by
  by_cases inTime : asked.delay ≤ bound
  · rw [settle_of_inTime inTime] at settled
    cases value : asked.value with
    | error refusal =>
        rw [value] at settled
        cases settled
    | ok other =>
        rw [value] at settled
        cases settled
        rfl
  · rw [settle_of_late (Nat.not_le.mp inTime)] at settled
    cases settled

theorem authenticateRemotely_obeys (client : Client) (context : Context) (state : State) :
    Obeys (authenticateRemotely client) context state
      (client.authenticate state.world.sent context.authorization)
      fun identity => { context with identity := some identity } where
  permitted identity isYes inTime := by
    refine ⟨(identifyRemotely client context state).2, fun next => ?_⟩
    simp only [authenticateRemotely, identifyRemotely, settle_of_inTime inTime, isYes,
      Except.mapError]
  denied refusal isNo inTime := by
    refine ⟨(identifyRemotely client context state).2, fun next => ?_⟩
    simp only [authenticateRemotely, identifyRemotely, settle_of_inTime inTime, isNo,
      Except.mapError]
  late late := by
    refine ⟨(identifyRemotely client context state).2, fun next => ?_⟩
    simp only [authenticateRemotely, identifyRemotely, settle_of_late late]

theorem authorizeRemotely_obeys (client : Client) (rule : String)
    (known : parties context = .ok (caller, target)) (state : State) :
    Obeys (authorizeRemotely client rule) context state
      (client.authorize state.world.sent { claims := caller.claims, userId := target, rule })
      fun _ => context where
  permitted _ isYes inTime := by
    refine ⟨(permitRemotely client rule context state).2, fun next => ?_⟩
    simp only [authorizeRemotely, permitRemotely, known, settle_of_inTime inTime, isYes,
      Except.mapError]
  denied refusal isNo inTime := by
    refine ⟨(permitRemotely client rule context state).2, fun next => ?_⟩
    simp only [authorizeRemotely, permitRemotely, known, settle_of_inTime inTime, isNo,
      Except.mapError]
  late late := by
    refine ⟨(permitRemotely client rule context state).2, fun next => ?_⟩
    simp only [authorizeRemotely, permitRemotely, known, settle_of_late late]

theorem value_of_identify
    (found : (Authority.elsewhere client).identify context state = (.ok caller, after)) :
    (client.authenticate state.world.sent context.authorization).value = .ok caller := by
  simp only [Authority.identify, identifyRemotely] at found
  cases settled : settle ((client.authenticate state.world.sent context.authorization).within
      (remaining context state)) with
  | error failure =>
      rw [settled] at found
      cases found
  | ok identity =>
      rw [settled] at found
      cases found
      exact value_of_settle settled

theorem value_of_decision
    (decided : (Authority.elsewhere client).decision rule context state = (.ok (), after)) :
    ∃ caller target, context.identity = some caller ∧ targetOf context caller = .ok target ∧
      (client.authorize state.world.sent { claims := caller.claims, userId := target, rule }).value
        = .ok () := by
  unfold Authority.decision at decided
  split at decided
  · cases decided
  · rename_i caller known
    split at decided
    · cases decided
    · rename_i target isTarget
      refine ⟨caller, target, known, isTarget, ?_⟩
      simp only [Authority.grant] at decided
      cases settled : settle ((client.authorize state.world.sent
          { claims := caller.claims, userId := target, rule }).within
            (context.deadline - state.world.clock)) with
      | error failure =>
          rw [settled] at decided
          cases decided
      | ok done => exact value_of_settle settled

end Guards

/-! ## Routes behind guards -/

section Routes

variable {app : App} {table : StatusTable} {capture : Http.Pattern.Capture}
  {request : Http.Request} {world : World} {context inner : Context} {held : State}
  {client : Client} {before after : List Layer}

theorem answer_of_endsWith (layered : app.layers = global table)
    (isContext : app.context? capture request world = some context) {layer : Middleware}
    {refusal : Refusal} (ends : EndsWith layer context (enter context { world }) refusal.failure)
    (handler : Handler) :
    (app.serveRoute (wrap app.layers (layer handler)) capture request world).1 =
      .ok (.json (table.status .unauthenticated)
        ({ code := "unauthenticated", message := refusal.message } : Envelope).write) := by
  rcases ends with ⟨after, ends⟩
  have stays : refusal.failure.isShutdown = false := rfl
  rw [App.serveRoute_of_context layered isContext, ends]
  exact App.finish_of_failure rfl stays

theorem value_of_runs_authenticate
    (runs : Runs (fun handler => app.serveRoute
      (wrapLayers (before ++ .authenticate (.elsewhere client) :: after) handler) capture request
      world) inner held) :
    ∃ sent identity,
      (client.authenticate sent ((request.headerText? "authorization").getD "")).value =
        .ok identity := by
  rcases passes_of_runs runs with ⟨context, state, _, _, _, _, _, sameRequest, once, _⟩
  rcases Layer.identify_of_once once with ⟨caller, found, _⟩
  have sameHeader : context.authorization = (request.headerText? "authorization").getD "" := by
    rw [Context.authorization, Context.header?, sameRequest]
  rw [← sameHeader]
  exact ⟨_, caller, value_of_identify found⟩

theorem value_of_runs_authorize {rule : String}
    (runs : Runs (fun handler => app.serveRoute
      (wrapLayers (before ++ .authorize (.elsewhere client) rule :: after) handler) capture request
      world) inner held) :
    ∃ sent inquiry, inquiry.rule = rule ∧ (client.authorize sent inquiry).value = .ok () := by
  rcases passes_of_runs runs with ⟨context, state, _, _, _, _, _, _, once, _⟩
  rcases Layer.decision_of_once once with ⟨decided, _⟩
  rcases value_of_decision decided with ⟨caller, target, _, _, isYes⟩
  exact ⟨_, _, rfl, isYes⟩

end Routes

/-! ## One reply to everything -/

def replyingClient (reply : Http.Reply) : Client where
  base := sampleBase
  transport _ _ := .after 0 (some reply)

theorem exchange_replyingClient {reply : Http.Reply} {message : Http.Message}
    (isSendable : message.isSendable = true) (sent : List Http.Message) :
    Http.exchange (replyingClient reply).transport sent message =
      { delay := 0, value := some reply } := by
  rw [Http.exchange, if_pos isSendable]
  rfl

theorem exchange_identity (reply : Http.Reply) (sent : List Http.Message) {header : String}
    (visible : ∀ value ∈ header.toList, IsVisible value) :
    Http.exchange (replyingClient reply).transport sent
        ((replyingClient reply).authenticateMessage header) =
      { delay := 0, value := some reply } :=
  exchange_replyingClient (@Link.isSendable_authenticate sampleLink sampleBase
    isAddress_sampleBase.identity header visible) sent

theorem exchange_permission (reply : Http.Reply) (sent : List Http.Message) (inquiry : Inquiry) :
    Http.exchange (replyingClient reply).transport sent
        ((replyingClient reply).authorizeMessage inquiry) =
      { delay := 0, value := some reply } :=
  exchange_replyingClient (@Link.isSendable_authorize sampleLink sampleBase
    isAddress_sampleBase.permission inquiry) sent

/-- A client makes a yes of no reply but one with the status `ok` and an identity in its body or,
when it asks what is permitted, one with the status `noContent` or `ok`. Behind a guard the request
goes on after a yes that comes in time, and not otherwise. -/
theorem remote_guards_fail_closed (client : Client) :
    (∀ sent header verdict, (client.authenticate sent header).value = verdict ↔
      Judged [.ok] (Json.Document.meaning? Identity.ofDocument?)
        (client.reply? sent (client.authenticateMessage header)) verdict) ∧
    (∀ sent inquiry verdict, (client.authorize sent inquiry).value = verdict ↔
      Judged [.noContent, .ok] (fun _ => some ())
        (client.reply? sent (client.authorizeMessage inquiry)) verdict) ∧
    (∀ envelope : Envelope,
      Client.message? (Text.encode envelope.write) = some envelope.message) ∧
    (∀ context state, Obeys (authenticateRemotely client) context state
      (client.authenticate state.world.sent context.authorization)
      fun identity => { context with identity := some identity }) ∧
    (∀ rule context state caller target, parties context = .ok (caller, target) →
      Obeys (authorizeRemotely client rule) context state
        (client.authorize state.world.sent { claims := caller.claims, userId := target, rule })
        fun _ => context) ∧
    (∀ (app : App) table capture request world context layer (refusal : Refusal),
      app.layers = global table → app.context? capture request world = some context →
      EndsWith layer context (enter context { world }) refusal.failure →
        refusal.failure.kind = .unauthenticated ∧ ∀ handler,
          (app.serveRoute (wrap app.layers (layer handler)) capture request world).1 =
            .ok (.json (table.status .unauthenticated)
              ({ code := "unauthenticated", message := refusal.message } : Envelope).write)) ∧
    (∀ (app : App) before after capture request world inner held,
      Runs (fun handler => app.serveRoute
        (wrapLayers (before ++ .authenticate (.elsewhere client) :: after) handler) capture request
        world) inner held →
      ∃ sent identity,
        (client.authenticate sent ((request.headerText? "authorization").getD "")).value =
          .ok identity) ∧
    ∀ (app : App) before after rule capture request world inner held,
      Runs (fun handler => app.serveRoute
        (wrapLayers (before ++ .authorize (.elsewhere client) rule :: after) handler) capture
        request world) inner held →
      ∃ sent inquiry, inquiry.rule = rule ∧ (client.authorize sent inquiry).value = .ok () := by
  refine ⟨client.authenticate_eq_iff, client.authorize_eq_iff, Client.message?_envelope,
    authenticateRemotely_obeys client, ?_, ?_, ?_, ?_⟩
  · intro rule context state caller target known
    exact authorizeRemotely_obeys client rule known state
  · intro app table capture request world context layer refusal layered isContext ends
    exact ⟨rfl, answer_of_endsWith layered isContext ends⟩
  · intro app before after capture request world inner held runs
    exact value_of_runs_authenticate runs
  · intro app before after rule capture request world inner held runs
    exact value_of_runs_authorize runs

/-! A service that denies everybody, and one that has something to say where it should not. -/

def sampleDenial : Http.Reply where
  status := .unauthorized
  body := Text.encode (Envelope.write { code := "unauthenticated", message := "kid missing" })

def talkativePermission : Http.Reply where
  status := .ok
  body := Text.encode "not now"

def plainContext : Context where
  request := plainRequest
  parameters := some []
  body := some {}
  startedAt := 150
  isTraced := true
  deadline := defaultTimeout

theorem plainRequest_denied :
    ((replyingClient sampleDenial).authenticate [] "").value =
        .error (.unauthorized "kid missing") ∧
      (∀ handler, (plainApp.serveRoute
        (wrap plainApp.layers (authenticateRemotely (replyingClient sampleDenial) handler)) []
        plainRequest plainWorld).1 = .ok (.json .unauthorized
          (Envelope.write { code := "unauthenticated", message := "kid missing" }))) ∧
      (∀ inner held, ¬ Runs (fun handler => plainApp.serveRoute (wrapLayers
        ([.meter] ++ [.authenticate (.elsewhere (replyingClient sampleDenial))]) handler) []
        plainRequest plainWorld) inner held) ∧
      ((replyingClient talkativePermission).authorize [] sampleInquiry).value = .ok () := by
  rcases remote_guards_fail_closed (replyingClient sampleDenial) with
    ⟨asksWho, _, tells, obeys, _, told, runs, _⟩
  have denied (sent : List Http.Message) :
      ((replyingClient sampleDenial).authenticate sent "").value =
        .error (.unauthorized "kid missing") := by
    refine (asksWho sent "" _).mpr ?_
    rw [Client.reply?, exchange_identity _ _ (by simp)]
    exact .no (tells _)
  refine ⟨denied [], ?_, ?_, ?_⟩
  · have inTime : ((replyingClient sampleDenial).authenticate [] "").delay ≤ defaultTimeout := by
      rw [Client.authenticate, exchange_identity _ _ (by simp)]
      exact Nat.zero_le _
    have ends := (obeys plainContext (enter plainContext { world := plainWorld })).denied
      (.unauthorized "kid missing") (denied []) inTime
    exact (told plainApp {} [] plainRequest plainWorld plainContext _ _ rfl rfl ends).2
  · intro inner held isRun
    rcases runs plainApp [.meter] [] [] plainRequest plainWorld inner held isRun with
      ⟨sent, identity, isYes⟩
    cases (denied sent).symm.trans isYes
  · refine ((remote_guards_fail_closed (replyingClient talkativePermission)).2.1 [] sampleInquiry
      _).mpr ?_
    rw [Client.reply?, exchange_permission]
    exact .yes (by decide) rfl

end TokenAuthority.Pipeline

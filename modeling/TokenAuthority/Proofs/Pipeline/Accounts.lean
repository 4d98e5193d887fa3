import TokenAuthority.Proofs.Pipeline.Layers

/-!
# What a request leaves behind

Whatever is inside the four layers of every route, and however it ends, the request is answered
once, the log is closed behind it and the counters are settled. All three hang on nothing but the
outcome of what is inside.
-/

namespace TokenAuthority.Pipeline

variable {app : App} {table : StatusTable} {context : Context} {state : State}

/-! ## Accounts of an outcome -/

namespace Outcome

def answer (table : StatusTable) : Outcome → Http.Response
  | .response given => given
  | .failure given => envelopeOf table given
  | .panic given => envelopeOf table (.panic given.message given.trace)

def fails (outcome : Outcome) : Bool :=
  outcome.failure?.isSome

def panics : Outcome → Bool
  | .panic _ => true
  | _ => false

def stop? (outcome : Outcome) : Option Failure :=
  outcome.failure?.filter Failure.isShutdown

/-- The status that the log shows: that of the answer to a failure, and otherwise whatever was
recorded. -/
def status (table : StatusTable) (recorded : Http.Status) (outcome : Outcome) : Http.Status :=
  (outcome.failure?.map fun given => table.status given.kind).getD recorded

/-- What is logged when a request has come to an outcome: the failure if there is one, that the
request is complete, and why the service has to stop if it has to. -/
def closing (table : StatusTable) (subject : Log.Subject) (recorded : Http.Status)
    (outcome : Outcome) : List Log.Event :=
  (outcome.failure?.map Log.Event.ofFailure).toList ++
    Log.Event.requestCompleted subject (outcome.status table recorded) ::
    (outcome.stop?.map fun given => Log.Event.shutdownRequested given.message).toList

def settle (outcome : Outcome) (counters : Counters) : Counters where
  requests := counters.requests
  errors := counters.errors + outcome.fails.toNat
  panics := counters.panics + outcome.panics.toNat
  inFlight := counters.inFlight - 1

theorem answer_of_failure {outcome : Outcome} {failure : Failure}
    (fails : outcome.failure? = some failure) (table : StatusTable) :
    outcome.answer table = envelopeOf table failure := by
  cases outcome with
  | response response => cases fails
  | failure given =>
      cases fails
      rfl
  | panic panic =>
      cases fails
      rfl

end Outcome

/-! ## Accounts of a request -/

theorem fst_leave (table : StatusTable) (context : Context) (outcome : Outcome) (state : State) :
    (leave table context (outcome, state)).1 =
      match outcome.stop? with
      | some failure => .failure failure
      | none => .response (outcome.answer table) := by
  cases outcome with
  | response response => rfl
  | panic panic => rfl
  | failure failure => cases failure <;> rfl

namespace App

variable {outcome : Outcome}

theorem answer_finish :
    (app.finish app.table context (outcome, state)).1 = .ok (outcome.answer app.table) := by
  cases outcome with
  | response response => rfl
  | panic panic => rfl
  | failure failure => cases failure <;> rfl

theorem counters_finish :
    (app.finish table context (outcome, state)).2.counters =
      outcome.settle state.world.counters := by
  cases outcome with
  | response response => rfl
  | panic panic => rfl
  | failure failure => cases failure <;> rfl

theorem log_finish :
    (app.finish table context (outcome, state)).2.log =
      state.world.log ++ outcome.closing table context.subject state.recorded := by
  have two (log : List Log.Event) (first second : Log.Event) :
      log ++ [first] ++ [second] = log ++ [first, second] := by simp
  have three (log : List Log.Event) (first second third : Log.Event) :
      log ++ [first] ++ [second] ++ [third] = log ++ [first, second, third] := by simp
  cases outcome with
  | response response => rfl
  | panic panic => exact two ..
  | failure failure =>
      cases failure with
      | shutdown reason => exact three ..
      | _ => exact two ..

end App

/-! ## Events -/

theorem Outcome.events_closing (table : StatusTable) (subject : Log.Subject)
    (recorded : Http.Status) (outcome : Outcome) :
    let closing := outcome.closing table subject recorded
    (closing.filter fun event => event.message == "request started") = [] ∧
      (closing.filter fun event => event.message == "request completed") =
        [.requestCompleted subject (outcome.status table recorded)] ∧
      (closing.countP fun event => event.level == .error) = outcome.fails.toNat := by
  cases outcome with
  | response response => exact ⟨rfl, rfl, rfl⟩
  | panic panic => exact ⟨rfl, rfl, rfl⟩
  | failure failure => cases failure <;> exact ⟨rfl, rfl, rfl⟩

/-- A request on a route that `handle` adds behind the four layers is answered once, with the
response of what is inside or with the envelope of its failure or panic. The log says once that it
starts and once that it is complete, with one error if it failed, and it is counted as it ended. -/
theorem request_accounts (app : App) (layered : app.layers = global app.table) (method : String)
    (pattern : Http.Pattern) (locals : List Middleware) (handler : Handler)
    (capture : Http.Pattern.Capture) (request : Http.Request) (world : World) :
    let inner := wrap locals handler
    let chain := wrap app.layers inner
    (app.handle method pattern handler locals).routes =
      app.routes ++ [{ method, pattern, handler := chain }] ∧
    (∀ context state panic, (chain context state).1 ≠ .panic panic) ∧
    match app.context? capture request world with
    | none => app.serveRoute chain capture request world = (.error App.untimed, world)
    | some context =>
        let entered := enter context { world }
        let outcome := (inner context entered).1
        let ended := (inner context entered).2
        let closing := outcome.closing app.table context.subject ended.recorded
        let after := (app.serveRoute chain capture request world).2
        (app.serveRoute chain capture request world).1 = .ok (outcome.answer app.table) ∧
        entered.world.log = world.log ++ [.requestStarted context.subject] ∧
        after.log = ended.world.log ++ closing ∧
        (closing.filter fun event => event.message == "request started") = [] ∧
        (closing.filter fun event => event.message == "request completed") =
          [.requestCompleted context.subject (outcome.status app.table ended.recorded)] ∧
        (closing.countP fun event => event.level == .error) = outcome.fails.toNat ∧
        entered.world.counters = world.counters.enter ∧
        after.counters = outcome.settle ended.world.counters ∧
        (ended.world.counters = entered.world.counters →
          after.counters = {
            requests := world.counters.requests + 1
            errors := world.counters.errors + outcome.fails.toNat
            panics := world.counters.panics + outcome.panics.toNat
            inFlight := world.counters.inFlight }) := by
  intro inner chain
  refine ⟨rfl, ?_, ?_⟩
  · intro context state panic isPanic
    have wrapped : chain context state =
        leave app.table context (inner context (enter context state)) := by
      rw [← wrap_global, ← layered]
    rw [wrapped, fst_leave] at isPanic
    split at isPanic <;> cases isPanic
  · cases isContext : app.context? capture request world with
    | none => exact App.serveRoute_of_noContext isContext chain
    | some context =>
        have served := App.serveRoute_of_context layered isContext inner
        dsimp only
        rw [served]
        rcases inner context (enter context { world }) with ⟨outcome, ended⟩
        rcases outcome.events_closing app.table context.subject ended.recorded with
          ⟨noStart, completed, errors⟩
        refine ⟨App.answer_finish, rfl, App.log_finish, noStart, completed, errors, rfl,
          App.counters_finish, ?_⟩
        intro untouched
        rw [App.counters_finish, untouched]
        rfl

/-! A request to a route with a layer that panics when all inside it has ended. -/

def plainApp : App where
  layers := global {}

def plainRequest : Http.Request where
  target := .place "/" none

def plainWorld : World where
  now := 150

def lastPanic : Middleware := fun next context state =>
  (.panic { words := some "too late" }, (next context state).2)

def plainHandler : Handler := fun _ state => answered (respond .ok "true" state)

theorem plainRequest_accounts :
    plainApp.layers = global plainApp.table ∧
      let chain := wrap plainApp.layers (wrap [lastPanic] plainHandler)
      let served := plainApp.serveRoute chain [] plainRequest plainWorld
      served.1 = .ok (envelopeOf {} (.panic "too late" "")) ∧
        served.2.log.map Log.Event.message =
          ["request started", "request panicked", "request completed"] ∧
        served.2.counters = { requests := 1, errors := 1, panics := 1, inFlight := 0 } := by
  have accounts := request_accounts plainApp rfl "GET" ⟨[.literal []]⟩ [lastPanic] plainHandler []
    plainRequest plainWorld
  rcases accounts.2.2 with ⟨answer, _, log, _, _, _, _, _, counters⟩
  exact ⟨rfl, answer, congrArg (List.map Log.Event.message) log, counters rfl⟩

end TokenAuthority.Pipeline

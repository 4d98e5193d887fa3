import TokenAuthority.Pipeline.App
import TokenAuthority.Pipeline.Layers
import TokenAuthority.Proofs.Pipeline.Runs

/-!
# The layers of every route

Each of the four layers is a change of the state on the way in and a change of the outcome and the
state on the way out. Together they run what is inside them, in its context, and answer every
failure and every panic with an envelope; only a failure that is to stop the service comes through.
-/

namespace TokenAuthority.Pipeline

variable {table : StatusTable} {next : Handler} {context : Context} {state : State}

/-! ## On the way out -/

def contain : Outcome × State → Outcome × State
  | (.panic panic, after) =>
      (.failure (.panic panic.message panic.trace), after.count Counters.countPanic)
  | passed => passed

def tally : Outcome × State → Outcome × State
  | (.failure failure, after) =>
      (.failure failure, (after.count Counters.countError).count Counters.leave)
  | (outcome, after) => (outcome, after.count Counters.leave)

def translate (table : StatusTable) : Outcome × State → Outcome × State
  | (.failure failure, after) =>
      let after := after.log (Log.Event.ofFailure failure)
      if failure.isShutdown then (.failure failure, after.record (table.status failure.kind))
      else answered (respondFailure table failure after)
  | passed => passed

def closeLog (context : Context) : Outcome × State → Outcome × State
  | (.panic panic, after) => (.panic panic, after)
  | (outcome, after) =>
      (outcome, after.log (.requestCompleted context.subject after.recorded))

def noteLeaving (name : String) (ended : Outcome × State) : Outcome × State :=
  (leavingNote name ended.2.recorded ended.1).elim ended fun words => (ended.1, ended.2.note words)

/-- The state in which the four layers run what is inside them. -/
def enter (context : Context) (state : State) : State :=
  (state.log (.requestStarted context.subject)).count Counters.enter

def leave (table : StatusTable) (context : Context) (ended : Outcome × State) : Outcome × State :=
  closeLog context (translate table (tally (contain ended)))

/-! ## Layers as changes -/

theorem logger_eq :
    logger next context state =
      closeLog context (next context (state.log (.requestStarted context.subject))) := rfl

theorem boundary_eq :
    boundary table next context state = translate table (next context state) := rfl

theorem meter_eq : meter next context state = tally (next context (state.count Counters.enter)) :=
  rfl

theorem safetyNet_eq : safetyNet next context state = contain (next context state) := rfl

theorem marker_eq (name : String) :
    marker name next context state =
      noteLeaving name
        (next context (state.note (name ++ " in " ++ Nat.repr state.recorded.code))) := by
  simp only [marker, noteLeaving]
  cases leavingNote name _ _ <;> rfl

theorem wrap_global (table : StatusTable) (inner : Handler) (context : Context) (state : State) :
    wrap (global table) inner context state =
      leave table context (inner context (enter context state)) := by
  simp only [wrap, global, List.foldr_cons, List.foldr_nil, logger_eq, boundary_eq, meter_eq,
    safetyNet_eq, leave, enter]

/-! ## Envelopes -/

def Outcome.failure? : Outcome → Option Failure
  | .response _ => none
  | .failure given => some given
  | .panic given => some (.panic given.message given.trace)

def envelopeOf (table : StatusTable) (failure : Failure) : Http.Response :=
  .json (table.status failure.kind) failure.envelope.write

theorem leave_of_failure {outcome : Outcome} {failure : Failure}
    (fails : outcome.failure? = some failure) (stays : failure.isShutdown = false)
    (table : StatusTable) (context : Context) (state : State) :
    (leave table context (outcome, state)).1 = .response (envelopeOf table failure) := by
  cases outcome with
  | response response => cases fails
  | failure given =>
      cases fails
      simp only [leave, contain, tally, translate, stays, Bool.false_eq_true, if_false]
      rfl
  | panic panic =>
      cases fails
      rfl

theorem leave_response (table : StatusTable) (context : Context) (response : Http.Response)
    (state : State) :
    (leave table context (.response response, state)).1 = .response response := rfl

/-! ## Routes -/

namespace App

/-- What a route comes to, once what is inside its four layers has come to an end. -/
def finish (app : App) (table : StatusTable) (context : Context) (ended : Outcome × State) :
    Except Panic Http.Response × World :=
  let (answer, after) := app.conclude (leave table context ended).1 (leave table context ended).2
  (answer, after.world)

variable {app : App} {capture : Http.Pattern.Capture} {request : Http.Request} {world : World}

theorem serveRoute_of_context (layered : app.layers = global table)
    (isContext : app.context? capture request world = some context) (inner : Handler) :
    app.serveRoute (wrap app.layers inner) capture request world =
      app.finish table context (inner context (enter context { world })) := by
  simp only [serveRoute, isContext, layered, wrap_global, finish]

theorem serveRoute_of_noContext (noContext : app.context? capture request world = none)
    (inner : Handler) : app.serveRoute inner capture request world = (.error untimed, world) := by
  simp only [serveRoute, noContext]

theorem finish_of_failure {outcome : Outcome} {failure : Failure}
    (fails : outcome.failure? = some failure) (stays : failure.isShutdown = false) :
    (app.finish table context (outcome, state)).1 = .ok (envelopeOf table failure) := by
  simp only [finish, leave_of_failure fails stays, conclude]

theorem finish_tells (app : App) (table : StatusTable) (context : Context) :
    ∃ left right, app.finish table context left ≠ app.finish table context right := by
  let state : State := { world := { now := 0 } }
  refine ⟨(.response { status := .ok }, state), (.response { status := .noContent }, state), ?_⟩
  intro same
  have answers := congrArg Prod.fst same
  simp only [finish, leave_response, conclude] at answers
  cases answers

theorem of_context? (isContext : app.context? capture request world = some context) :
    context.identity = none ∧ context.parameters = Http.Pattern.parameters? capture ∧
      context.request = request := by
  simp only [context?, Option.bind_eq_bind, Option.bind_eq_some_iff, Option.pure_def,
    Context.ofRequest?, Option.some.injEq] at isContext
  rcases isContext with ⟨deadline, _, fresh, isFresh, rfl⟩
  split at isFresh
  · cases isFresh
    exact ⟨rfl, rfl, rfl⟩
  · cases isFresh

end App

end TokenAuthority.Pipeline

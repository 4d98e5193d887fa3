import TokenAuthority.Client
import TokenAuthority.Pipeline.Basic
import TokenAuthority.Token.Engine

/-!
# Guards

The layers that decide who may pass: one finds out who makes a request and attaches the identity,
the other asks whether that identity may act. Each comes in two forms, one with an engine at hand
and one with a service elsewhere, and neither waits longer than the request may take.
-/

namespace TokenAuthority.Pipeline

/-! ## Who and whom -/

def targetParameter : String := "user_id"

def unattached : Failure :=
  .classified .unauthenticated "no identity on request: authenticate must run first"

def invalidTarget : Failure :=
  .classified .invalidArgument ("invalid " ++ targetParameter ++ ": not a unique id")

def outOfTime : Failure :=
  Token.AuthError.timeout.failure

/-- Whom a request acts on: the user that its path names, or else the caller. -/
def targetOf (context : Context) (caller : Identity) : Except Failure Uuid :=
  match context.parameter? targetParameter with
  | none => .ok caller.userId
  | some text =>
      match Uuid.parse? text with
      | some target => .ok target
      | none => .error invalidTarget

def parties (context : Context) : Except Failure (Identity × Uuid) :=
  match context.identity with
  | none => .error unattached
  | some caller => (targetOf context caller).map (caller, ·)

def remaining (context : Context) (state : State) : Nat :=
  context.deadline - state.world.clock

/-! ## With an engine at hand -/

/-- How a request ends that an engine has a fault with. An engine without a verdict panics. -/
def refused : Token.AuthError → Outcome
  | .policy .noVerdict => .panic { words := some Policy.EvaluationError.noVerdict.message }
  | fault => .failure fault.failure

def identify (engine : Token.Engine) (context : Context) (state : State) :
    Except Outcome Identity × State :=
  let waited := (engine.authenticate state.world.now context.authorization).within
    (remaining context state)
  let identified := match waited.value with
    | none => .error (.failure outOfTime)
    | some (.error fault) => .error (refused fault)
    | some (.ok claims) =>
        (Identity.ofClaims claims).mapError fun fault => refused (.invalidSubject fault)
  (identified, state.pass waited.delay)

def authenticate (engine : Token.Engine) : Middleware := fun next context state =>
  match identify engine context state with
  | (.error outcome, after) => (outcome, after)
  | (.ok identity, after) => next { context with identity := some identity } after

def permit (engine : Token.Engine) (rule : String) (context : Context) (state : State) :
    Except Outcome Unit := do
  let (caller, target) ← (parties context).mapError .failure
  if context.deadline ≤ state.world.clock then .error (.failure outOfTime)
  else (engine.authorize state.world.now caller.claims target rule).mapError refused

def authorize (engine : Token.Engine) (rule : String) : Middleware := fun next context state =>
  match permit engine rule context state with
  | .error outcome => (outcome, state)
  | .ok () => next context state

/-! ## With a service elsewhere -/

def settle {Answer : Type} (waited : Awaited (Option (Except Client.Refusal Answer))) :
    Except Failure Answer :=
  match waited.value with
  | none => .error outOfTime
  | some (.error refusal) => .error refusal.failure
  | some (.ok answer) => .ok answer

/-- The identity that a service names for a request. It is taken as it comes. -/
def identifyRemotely (client : Client) (context : Context) (state : State) :
    Except Failure Identity × State :=
  let header := context.authorization
  let waited := (client.authenticate state.world.sent header).within (remaining context state)
  (settle waited, (state.send (client.authenticateMessage header)).pass waited.delay)

def authenticateRemotely (client : Client) : Middleware := fun next context state =>
  match identifyRemotely client context state with
  | (.error failure, after) => (.failure failure, after)
  | (.ok identity, after) => next { context with identity := some identity } after

def permitRemotely (client : Client) (rule : String) (context : Context) (state : State) :
    Except Failure Unit × State :=
  match parties context with
  | .error failure => (.error failure, state)
  | .ok (caller, target) =>
      let inquiry : Inquiry := { claims := caller.claims, userId := target, rule }
      let waited := (client.authorize state.world.sent inquiry).within (remaining context state)
      (settle waited, (state.send (client.authorizeMessage inquiry)).pass waited.delay)

def authorizeRemotely (client : Client) (rule : String) : Middleware := fun next context state =>
  match permitRemotely client rule context state with
  | (.error failure, after) => (.failure failure, after)
  | (.ok (), after) => next context after

end TokenAuthority.Pipeline

import TokenAuthority.Http.Exchange
import TokenAuthority.Http.Response
import TokenAuthority.Pipeline.Context
import TokenAuthority.Pipeline.Counters
import TokenAuthority.Shutdown

/-!
# Handlers and middleware

A handler takes a context and ends with a response, a failure or a panic. Middleware turns a handler
into another; around a handler, the first of a list of middleware is the outermost. What they do
besides is seen in a state: the status recorded for the request, and a world that all requests
share.
-/

namespace TokenAuthority.Pipeline

structure World where
  /-- The time of day. -/
  now : Seconds
  /-- A clock that only goes forward, in milliseconds. -/
  clock : Nat := 0
  counters : Counters := {}
  channel : Shutdown.Channel := {}
  /-- What was sent to other services, in order. -/
  sent : List Http.Message := []
  /-- What was logged, in order. -/
  log : List Log.Event := []
  trail : List String := []
  deriving DecidableEq, Repr

structure State where
  world : World
  /-- The status that the request was last answered with. -/
  recorded : Http.Status := .ok
  deriving DecidableEq, Repr

namespace State

def log (state : State) (event : Log.Event) : State :=
  { state with world := { state.world with log := state.world.log ++ [event] } }

def note (state : State) (words : String) : State :=
  { state with world := { state.world with trail := state.world.trail ++ [words] } }

def record (state : State) (status : Http.Status) : State :=
  { state with recorded := status }

def count (state : State) (change : Counters → Counters) : State :=
  { state with world := { state.world with counters := change state.world.counters } }

def send (state : State) (message : Http.Message) : State :=
  { state with world := { state.world with sent := Http.sentWith state.world.sent message } }

/-- Asks for shutdown, and does not care whether the reason is taken. -/
def signal (state : State) (reason : String) : State :=
  { state with world := { state.world with channel := (state.world.channel.signal reason).1 } }

def pass (state : State) (time : Nat) : State :=
  { state with world := { state.world with clock := state.world.clock + time } }

end State

structure Panic where
  words : Option String
  trace : String := ""
  deriving DecidableEq, Repr

namespace Panic

def message (panic : Panic) : String :=
  panic.words.getD "unknown panic payload"

end Panic

inductive Outcome where
  | response (response : Http.Response)
  | failure (failure : Failure)
  | panic (panic : Panic)
  deriving DecidableEq, Repr

abbrev Handler := Context → State → Outcome × State

abbrev Middleware := Handler → Handler

/-- A handler inside layers, the first of which runs first. -/
def wrap (layers : List Middleware) (handler : Handler) : Handler :=
  layers.foldr (fun layer inner => layer inner) handler

theorem wrap_append (outer inner : List Middleware) (handler : Handler) :
    wrap (outer ++ inner) handler = wrap outer (wrap inner handler) := by
  simp [wrap]

/-! ## Responses -/

def respond (status : Http.Status) (body : String) (state : State) : Http.Response × State :=
  (.json status body, state.record status)

def respondFailure (table : StatusTable) (failure : Failure) (state : State) :
    Http.Response × State :=
  respond (table.status failure.kind) failure.envelope.write state

def answered (answer : Http.Response × State) : Outcome × State :=
  (.response answer.1, answer.2)

end TokenAuthority.Pipeline

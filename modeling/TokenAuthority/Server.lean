import TokenAuthority.Log
import TokenAuthority.Shutdown

/-!
# Serving and draining

A server serves until a reason to stop arrives. Then it takes no more connections and gives the
requests that are in flight some time to end; what is left after that is cut off, and the server
says so.
-/

namespace TokenAuthority

structure Server where
  /-- How long requests in flight may still run, in milliseconds. -/
  drainTimeout : Nat
  deriving DecidableEq, Repr

namespace Server

inductive Fault where
  /-- It could not serve at all. -/
  | unserved
  /-- It had to be stopped by force, after a time in milliseconds. -/
  | forced (bound : Nat)
  deriving DecidableEq, Repr

namespace Fault

def message : Fault → String
  | .unserved => "server failed: the address cannot be used"
  | .forced bound => "could not stop server gracefully within " ++ Log.duration bound

end Fault

/-! ## Draining -/

structure Drained where
  result : Except Fault Unit
  /-- Which of the requests in flight were answered. -/
  answered : List Bool
  log : List Log.Event

def longest (remaining : List Nat) : Nat :=
  remaining.foldl max 0

/-- How long a drain takes. It is assumed of whatever holds the connections that, once it is told to
stop with this bound, it waits until the last request has ended and cuts off what is left when the
time is over. -/
def drainTime (server : Server) (remaining : List Nat) : Nat :=
  min (longest remaining) server.drainTimeout

def drain (server : Server) (reason : String) (remaining : List Nat) : Drained :=
  let started := Log.Event.shutdownStarted reason server.drainTimeout
  let answered := remaining.map fun time => decide (time ≤ server.drainTimeout)
  if server.drainTimeout ≤ server.drainTime remaining then
    { result := .error (.forced server.drainTimeout), answered
      log := [started, .drainTimedOut server.drainTimeout] }
  else { result := .ok (), answered, log := [started, .shutdownComplete] }

/-! ## Serving -/

inductive Course where
  | failed (fault : Fault)
  /-- Nothing makes it stop. -/
  | serving
  | stopped (drained : Drained)

/-- Serves, if the address can be used, and stops if a reason is there. A channel that is closed is
no reason. -/
def run (server : Server) (isUsable : Bool) (channel : Shutdown.Channel) (remaining : List Nat) :
    Course :=
  if isUsable then
    match channel.receive.2 with
    | .reason reason => .stopped (server.drain reason remaining)
    | .nothingYet | .closed => .serving
  else .failed .unserved

end Server

end TokenAuthority

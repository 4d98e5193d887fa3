import TokenAuthority.Failure.Basic

/-!
# The log

What is written down for those who run the service. An event is a fact; its level, its words and its
fields follow from it.
-/

namespace TokenAuthority.Log

structure Subject where
  method : String
  path : String
  /-- Empty if it is not known who sent the request. -/
  sender : String
  deriving DecidableEq, Repr

inductive Event where
  | requestStarted (subject : Subject)
  | requestCompleted (subject : Subject) (status : Http.Status)
  | requestFailed (kind : Kind) (message : String)
  | requestPanicked (kind : Kind) (value trace : String)
  | shutdownRequested (reason : String)
  /-- The bound is in milliseconds. -/
  | shutdownStarted (reason : String) (bound : Nat)
  | shutdownComplete
  | drainTimedOut (bound : Nat)
  | stoppedByItself
  deriving DecidableEq, Repr

inductive Level where
  | info
  | warning
  | error
  deriving DecidableEq, Repr

namespace Level

def name : Level → String
  | .info => "INFO"
  | .warning => "WARN"
  | .error => "ERROR"

end Level

inductive Content where
  | text (value : String)
  | number (value : Nat)
  deriving DecidableEq, Repr

/-- A fraction of a second in milliseconds, without zeros at its end. -/
def fraction (milliseconds : Nat) : String :=
  let digits := [milliseconds / 100, milliseconds / 10 % 10, milliseconds % 10]
  let kept := (digits.reverse.dropWhile (· == 0)).reverse
  if kept.isEmpty then "" else "." ++ String.join (kept.map Nat.repr)

def duration (milliseconds : Nat) : String :=
  if milliseconds = 0 then "0ns"
  else if milliseconds < 1000 then Nat.repr milliseconds ++ "ms"
  else Nat.repr (milliseconds / 1000) ++ fraction (milliseconds % 1000) ++ "s"

example : [0, 60, 1500, 3000].map duration = ["0ns", "60ms", "1.5s", "3s"] := by decide +kernel

namespace Event

def level : Event → Level
  | .requestFailed _ _ | .requestPanicked _ _ _ => .error
  | .shutdownRequested _ | .drainTimedOut _ => .warning
  | _ => .info

def message : Event → String
  | .requestStarted _ => "request started"
  | .requestCompleted _ _ => "request completed"
  | .requestFailed _ _ => "request failed"
  | .requestPanicked _ _ _ => "request panicked"
  | .shutdownRequested _ => "Shutdown requested by request handler"
  | .shutdownStarted _ _ => "Shutdown started"
  | .shutdownComplete => "Shutdown complete"
  | .drainTimedOut _ => "Drain timed out, connections force-closed"
  | .stoppedByItself => "Server stopped without a shutdown request"

def subjectFields (subject : Subject) : List (String × Content) :=
  [("method", .text subject.method), ("path", .text subject.path),
   ("remote_addr", .text subject.sender)]

def fields : Event → List (String × Content)
  | .requestStarted subject => subjectFields subject
  | .requestCompleted subject status =>
      subjectFields subject ++ [("status_code", .number status.code)]
  | .requestFailed kind message => [("kind", .text kind.name), ("message", .text message)]
  | .requestPanicked kind value trace =>
      [("kind", .text kind.name), ("message", .text value), ("trace", .text trace)]
  | .shutdownRequested reason => [("reason", .text reason)]
  | .shutdownStarted reason bound =>
      [("reason", .text reason), ("timeout", .text (duration bound))]
  | .shutdownComplete => []
  | .drainTimedOut bound => [("timeout", .text (duration bound))]
  | .stoppedByItself => []

def ofFailure (failure : Failure) : Event :=
  match failure with
  | .panic value trace => .requestPanicked failure.kind value trace
  | _ => .requestFailed failure.kind failure.message

end Event

end TokenAuthority.Log

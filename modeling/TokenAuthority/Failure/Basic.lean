import TokenAuthority.Failure.Kind

/-!
# Failures

What goes wrong inside a request. A failure has a message for those who run the service and an
envelope for the caller; the envelope of a contained panic or of an unclassified failure says
nothing about it.
-/

namespace TokenAuthority

inductive Failure where
  /-- Classified where it arose. -/
  | classified (kind : Kind) (message : String)
  /-- A panic that was contained: its value and where it came from. -/
  | panic (value trace : String)
  /-- A loss of integrity that has to stop the service. -/
  | shutdown (reason : String)
  | unclassified (message : String)
  deriving DecidableEq, Repr

structure Envelope where
  code : String
  message : String
  deriving DecidableEq, Repr

namespace Failure

def kind : Failure → Kind
  | .classified kind _ => kind
  | .panic _ _ => .internal
  | .shutdown _ => .unavailable
  | .unclassified _ => .unknown

def message : Failure → String
  | .classified _ message => message
  | .panic value _ => "PANIC: [" ++ value ++ "]"
  | .shutdown reason => "shutdown requested: " ++ reason
  | .unclassified message => message

def isShutdown : Failure → Bool
  | .shutdown _ => true
  | _ => false

def envelope (failure : Failure) : Envelope where
  code := failure.kind.name
  message := match failure with
    | .classified _ message => message
    | .panic _ _ => "internal server error"
    | .shutdown reason => reason
    | .unclassified _ => "unexpected error"

end Failure

namespace Envelope

open Json in
def write (envelope : Envelope) : String :=
  enclosed "\x7b" "\x7d"
    [writeMember "code" (writeString envelope.code),
     writeMember "message" (writeString envelope.message)]

end Envelope

end TokenAuthority

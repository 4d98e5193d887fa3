import TokenAuthority.Delayed
import TokenAuthority.Http.Status
import TokenAuthority.Url.Parser

/-!
# Exchanges with other services

A message that goes out and the reply that comes back. A transport carries a message to wherever it
goes; it may take its time, and it may bring no reply. The reply may depend on what was sent before.
What cannot be sent at all never reaches the transport.
-/

namespace TokenAuthority.Http

structure Message where
  method : String
  url : String
  authorization : Option String := none
  body : Option String := none
  deriving DecidableEq, Repr

structure Reply where
  status : Status
  /-- Nothing, if it breaks off before its end. -/
  body : List UInt8
  deriving DecidableEq, Repr

abbrev Transport := List Message → Message → Delayed (Option Reply)

/-- How long to wait for a reply, in milliseconds. -/
def replyTimeout : Nat := 10000

def isHeaderValue (value : String) : Bool :=
  value.toList.all fun c => c == '\t' || (32 ≤ c.toNat && c.toNat != 127)

def isReachable (url : String) : Bool :=
  match Url.parse? url with
  | some url => url.scheme == "http" || url.scheme == "https"
  | none => false

namespace Message

def isSendable (message : Message) : Bool :=
  isReachable message.url && message.authorization.all isHeaderValue

end Message

def exchange (transport : Transport) (sent : List Message) (message : Message) :
    Awaited (Option Reply) :=
  if message.isSendable then ((transport sent message).within replyTimeout).map Option.join
  else .now none

def sentWith (sent : List Message) (message : Message) : List Message :=
  if message.isSendable then sent ++ [message] else sent

end TokenAuthority.Http

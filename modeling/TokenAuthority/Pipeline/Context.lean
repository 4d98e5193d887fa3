import TokenAuthority.Failure.Basic
import TokenAuthority.Http.Request
import TokenAuthority.Identity
import TokenAuthority.Log
import TokenAuthority.Word

/-!
# Request contexts

What every layer and handler knows of one request: what was sent, what its path says, who sent it
once that is proved, and until when it has to be answered. The body can be taken once.
-/

namespace TokenAuthority.Pipeline

structure Context where
  request : Http.Request
  /-- What the parameters of the route stand for. There are none outside a route, and none if one of
  them is no text. -/
  parameters : Option (List (String × String)) := none
  /-- The body, as long as nobody has taken it. -/
  body : Option Http.Body
  startedAt : Seconds
  /-- Whether the request has an id by which its events can be found. -/
  isTraced : Bool := false
  identity : Option Identity := none
  /-- On the clock of the world, in milliseconds. -/
  deadline : Nat
  deriving DecidableEq, Repr

def defaultTimeout : Nat := 10000

def maximumBody : Nat := 1024 * 1024

/-- The last second that the clock of the world shows. -/
def lastClockSecond : Nat := Word.half64 - 1

/-- When a time is over that begins now, if the clock shows it. The clock has to show the default time
too, which a request has at first. -/
def deadline? (clock timeout : Nat) : Option Nat :=
  if (clock + max timeout defaultTimeout) / 1000 ≤ lastClockSecond then some (clock + timeout)
  else none

namespace Context

def ofRequest? (request : Http.Request) (now : Seconds) (deadline : Nat) : Option Context :=
  if Claims.isShown now.toInt then
    some { request, body := some request.body, startedAt := now, deadline }
  else none

def header? (context : Context) (name : String) : Option String :=
  context.request.headerText? name

def authorization (context : Context) : String :=
  (context.header? "authorization").getD ""

def parameter? (context : Context) (name : String) : Option String :=
  context.parameters.bind fun parameters => parameters.reverse.lookup name

def subject (context : Context) : Log.Subject where
  method := context.request.method
  path := context.request.target.text
  sender := (context.request.sender.map Net.Endpoint.print).getD ""

def takeBody (context : Context) : Option Http.Body × Context :=
  (context.body, { context with body := none })

def undecodable (message : String) : Failure :=
  .classified .failedPrecondition message

/-- What the body means. Trying takes the body. -/
def decode {Meaning : Type} (meaning? : List UInt8 → Option Meaning) (context : Context) :
    Except Failure Meaning × Context :=
  let (body, rest) := context.takeBody
  let decoded :=
    match body with
    | none => .error (undecodable "request body already consumed")
    | some body =>
        match body.read? maximumBody with
        | none => .error (undecodable "reading body: length limit exceeded")
        | some bytes =>
            match meaning? bytes with
            | some meaning => .ok meaning
            | none => .error (undecodable "decoding body: not what is expected")
  (decoded, rest)

end Context

end TokenAuthority.Pipeline

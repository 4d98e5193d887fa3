import TokenAuthority.Pipeline.Basic
import TokenAuthority.Text.Decimal
import TokenAuthority.Word

/-!
# Gates

What stands around a whole application, in front of its routes: a gate looks at every request, also
at one that no route is for. It passes the request on, possibly changed, and may add to the
response; or it answers itself, and then nothing behind it ever sees the request.
-/

namespace TokenAuthority.Pipeline

/-- What answers requests. A panic answers nothing. -/
abbrev Responder := Http.Request → World → Except Panic Http.Response × World

structure Gate where
  /-- The request as it is passed on, or the answer to one that is not. -/
  receive : Http.Request → Except Http.Response Http.Request
  /-- What becomes of the response to a request that was passed on. -/
  release : Http.Response → Http.Response := id

namespace Gate

def guard (gate : Gate) (server : Responder) : Responder := fun request world =>
  match gate.receive request with
  | .error response => (.ok response, world)
  | .ok received =>
      let (answer, after) := server received world
      (answer.map gate.release, after)

/-- A server behind several gates, the first of which is the outermost. -/
def guardAll (gates : List Gate) (server : Responder) : Responder :=
  gates.foldr guard server

/-! ## Length of bodies -/

def declaredLength? (request : Http.Request) : Option Nat :=
  (request.headerText? "content-length").bind fun text => Text.decimal? Word.size64 text.toList

/-- Turns away bodies that are declared too long, and cuts off the others where they get too long or
longer than declared. -/
def bodyLimit (limit : Nat) : Gate where
  receive request :=
    let declared := (declaredLength? request).getD limit
    if limit < declared then
      .error (.plain .payloadTooLarge "length limit exceeded")
    else .ok { request with body := { request.body with bound := some declared } }

/-! ## Other origins -/

def askedHeaders : String :=
  "origin, access-control-request-method, access-control-request-headers"

def permission : Http.Response :=
  [("access-control-allow-headers", "*"), ("access-control-allow-methods", "*"),
   ("access-control-allow-origin", "*"), ("vary", askedHeaders)].foldl
    (fun response (name, value) => response.setHeader name value) { status := .ok }

def anyOrigin : Gate where
  receive request := if request.method = "OPTIONS" then .error permission else .ok request
  release response :=
    [("access-control-allow-origin", "*"), ("access-control-expose-headers", "*"),
     ("vary", askedHeaders)].foldl
      (fun response (name, value) => response.setHeader name value) response

end Gate

end TokenAuthority.Pipeline

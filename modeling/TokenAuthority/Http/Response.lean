import TokenAuthority.Http.Status
import TokenAuthority.Register

/-!
# Responses

A status, headers under their names and a body.
-/

namespace TokenAuthority.Http

structure Response where
  status : Status
  headers : Entries String := []
  body : String := ""
  deriving DecidableEq, Repr

namespace Response

def setHeader (response : Response) (name value : String) : Response :=
  { response with headers := response.headers.set name value }

/-- A response with JSON. One that announces no content has none. -/
def json (status : Status) (body : String) : Response :=
  if status = .noContent then { status }
  else { status, headers := [("content-type", "application/json")], body }

def plain (status : Status) (body : String) : Response where
  status := status
  headers := [("content-type", "text/plain; charset=utf-8")]
  body := body

def withoutBody (response : Response) : Response :=
  { response with body := "" }

end Response

end TokenAuthority.Http

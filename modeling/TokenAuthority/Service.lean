import TokenAuthority.Messages
import TokenAuthority.Pipeline.App
import TokenAuthority.Pipeline.Guards
import TokenAuthority.Pipeline.Layers

/-!
# The service

An engine behind routes. Two probes tell whether the service runs; they need no layers. A bearer of
a token may have it renewed under another key and may ask who it is; anybody may ask what claims
permit, since what the answer is about is all in the question.
-/

namespace TokenAuthority

open Pipeline

structure Service where
  engine : Token.Engine
  table : StatusTable := {}
  build : String := "development"
  host : Option String := none
  /-- How long a request may take, in milliseconds. -/
  timeout : Nat := defaultTimeout

namespace Service

/-! ## Probes -/

open Json in
def livenessText (build host : String) : String :=
  enclosed "\x7b" "\x7d"
    [writeMember "status" (writeString "up"), writeMember "build" (writeString build),
     writeMember "host" (writeString host)]

def liveness (service : Service) : Handler := fun _ state =>
  answered (respond .ok (livenessText service.build (service.host.getD "unavailable")) state)

open Json in
def readinessText : String :=
  enclosed "\x7b" "\x7d" [writeMember "status" (writeString "ok")]

def readiness : Handler := fun _ state =>
  answered (respond .ok readinessText state)

/-! ## Tokens -/

def keyParameter : String := "kid"

def missingKey : Failure :=
  .classified .failedPrecondition "missing kid"

def missingClaims : Failure :=
  .classified .unauthenticated "claims missing from context"

/-- Issues a token for the claims of the caller under the key that the path names. -/
def renew (service : Service) : Handler := fun context state =>
  let keyId := (context.parameter? keyParameter).getD ""
  if keyId.isEmpty then (.failure missingKey, state)
  else
    match context.identity with
    | none => (.failure missingClaims, state)
    | some caller =>
        let issued := service.engine.issue keyId caller.claims
        let after := state.pass issued.delay
        match issued.value with
        | .error fault => (.failure fault.failure, after)
        | .ok token => answered (respond .ok ({ token : Grant }).write after)

def whoAmI : Handler := fun context state =>
  match context.identity with
  | none => (.failure missingClaims, state)
  | some caller => answered (respond .ok caller.write state)

/-! ## Permissions -/

def missingRule : Failure :=
  .classified .failedPrecondition "rule is required"

def permits (service : Service) : Handler := fun context state =>
  match (context.decode (Json.Document.meaning? Inquiry.ofDocument?)).1 with
  | .error failure => (.failure failure, state)
  | .ok inquiry =>
      if inquiry.rule.isEmpty then (.failure missingRule, state)
      else
        match service.engine.authorize state.world.now inquiry.claims inquiry.userId
            inquiry.rule with
        | .error fault => (refused fault, state)
        | .ok () => answered (respond .noContent "null" state)

/-! ## Routes -/

def livenessPath : Http.Pattern := ⟨[.literal "liveness".toList]⟩
def readinessPath : Http.Pattern := ⟨[.literal "readiness".toList]⟩
def renewalPath : Http.Pattern :=
  ⟨[.literal "auth".toList, .literal "token".toList, .parameter keyParameter]⟩
def identityPath : Http.Pattern := ⟨[.literal "auth".toList, .literal "authenticate".toList]⟩
def permissionPath : Http.Pattern := ⟨[.literal "auth".toList, .literal "authorize".toList]⟩

def app (service : Service) : App :=
  let guarded := [authenticate service.engine]
  let bare : App := {
    layers := global service.table
    table := service.table
    timeout := service.timeout
    gates := [.anyOrigin, .bodyLimit maximumBody] }
  let probes := (bare.handleBare "GET" livenessPath service.liveness).handleBare "GET"
    readinessPath readiness
  ((probes.handle "GET" renewalPath service.renew guarded).handle "GET" identityPath whoAmI
    guarded).handle "POST" permissionPath service.permits

end Service

end TokenAuthority

import TokenAuthority.Failure.Basic
import TokenAuthority.Identity
import TokenAuthority.Keys.Error
import TokenAuthority.Policy.Evaluation
import TokenAuthority.Text.Quoted
import TokenAuthority.Token.Verification

/-!
# Failures of the token engine

Why no token is issued, a header does not authenticate, or a bearer may not act.
-/

namespace TokenAuthority.Token

inductive SigningFault where
  | key (fault : Keys.KeyError)
  | armor (fault : ArmorFault)
  | unusableKey
  deriving DecidableEq, Repr

namespace SigningFault

def message : SigningFault → String
  | .key fault => "private key: " ++ fault.message
  | .armor fault => "parsing private pem: " ++ fault.message
  | .unusableKey => "Signing failed: unusable key"

end SigningFault

inductive AuthError where
  | missingHeader
  | invalidHeader
  | malformedToken (fault : TokenFault)
  | missingKeyId
  | keyLookup (fault : Keys.KeyError)
  | verificationFailed
  | policy (fault : Policy.EvaluationError)
  | invalidSubject (fault : SubjectFault)
  | unauthorized (roles : List String) (rule : String)
  | signing (fault : SigningFault)
  | timeout
  deriving DecidableEq, Repr

namespace AuthError

def message : AuthError → String
  | .missingHeader => "authorization header is required"
  | .invalidHeader => "expected authorization header format: Bearer <token>"
  | .malformedToken fault => "token is malformed: " ++ fault.message
  | .missingKeyId => "kid missing from token header"
  | .keyLookup fault => "fetching public key: " ++ fault.message
  | .verificationFailed => "authentication failed: invalid signature or issuer"
  | .policy fault => "policy evaluation: " ++ fault.message
  | .invalidSubject fault => "invalid subject: " ++ fault.message
  | .unauthorized roles rule =>
      "you are not authorized for that action, claims[" ++ Text.quoteList roles ++ "] rule[" ++
        rule ++ "]"
  | .signing fault => "signing token: " ++ fault.message
  | .timeout => "auth check timed out"

/-- A refusal counts as a missing identity, so that callers cannot tell it from a bad token. -/
def kind : AuthError → Kind
  | .signing _ => .internal
  | .timeout => .deadlineExceeded
  | _ => .unauthenticated

def failure (error : AuthError) : Failure :=
  .classified error.kind error.message

end AuthError

end TokenAuthority.Token

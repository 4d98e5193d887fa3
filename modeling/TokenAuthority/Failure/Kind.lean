import TokenAuthority.Http.Status
import TokenAuthority.Json.Writer

/-!
# Kinds of outcome

Every failure belongs to a kind from the moment it arises, and a table made at the start says which
status each kind is sent with.
-/

namespace TokenAuthority

inductive Kind where
  | ok
  | cancelled
  | unknown
  | invalidArgument
  | deadlineExceeded
  | notFound
  | alreadyExists
  | permissionDenied
  | resourceExhausted
  | failedPrecondition
  | aborted
  | outOfRange
  | unimplemented
  | internal
  | unavailable
  | dataLoss
  | unauthenticated
  deriving DecidableEq, Repr

namespace Kind

/-- The kinds in the order of every table. -/
def all : List Kind :=
  [.ok, .cancelled, .unknown, .invalidArgument, .deadlineExceeded, .notFound, .alreadyExists,
   .permissionDenied, .resourceExhausted, .failedPrecondition, .aborted, .outOfRange,
   .unimplemented, .internal, .unavailable, .dataLoss, .unauthenticated]

theorem mem_all (kind : Kind) : kind ∈ all := by
  cases kind <;> decide

def name : Kind → String
  | .ok => "ok"
  | .cancelled => "cancelled"
  | .unknown => "unknown"
  | .invalidArgument => "invalid_argument"
  | .deadlineExceeded => "deadline_exceeded"
  | .notFound => "not_found"
  | .alreadyExists => "already_exists"
  | .permissionDenied => "permission_denied"
  | .resourceExhausted => "resource_exhausted"
  | .failedPrecondition => "failed_precondition"
  | .aborted => "aborted"
  | .outOfRange => "out_of_range"
  | .unimplemented => "unimplemented"
  | .internal => "internal"
  | .unavailable => "unavailable"
  | .dataLoss => "data_loss"
  | .unauthenticated => "unauthenticated"

def ofName? (name : String) : Option Kind :=
  all.find? fun kind => kind.name == name

def status : Kind → Http.Status
  | .ok => .ok
  | .cancelled | .deadlineExceeded => .gatewayTimeout
  | .invalidArgument | .failedPrecondition | .outOfRange => .badRequest
  | .notFound => .notFound
  | .alreadyExists | .aborted => .conflict
  | .permissionDenied => .forbidden
  | .resourceExhausted => .tooManyRequests
  | .unknown | .internal | .dataLoss => .internalError
  | .unimplemented => .notImplemented
  | .unavailable => .unavailable
  | .unauthenticated => .unauthorized

end Kind

structure StatusTable where
  status : Kind → Http.Status := Kind.status

namespace StatusTable

def set (table : StatusTable) (kind : Kind) (status : Http.Status) : StatusTable where
  status other := if other = kind then status else table.status other

def isDefault (table : StatusTable) : Bool :=
  Kind.all.all fun kind => table.status kind == kind.status

end StatusTable

end TokenAuthority

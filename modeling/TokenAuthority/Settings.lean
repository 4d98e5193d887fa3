import TokenAuthority.Net.Address
import TokenAuthority.Text.Blank
import TokenAuthority.Word

/-!
# Settings

What a service is started with, read from variables. A variable that is blank counts as unset, and
an unset variable stands for its default. The first variable with a bad value is reported.
-/

namespace TokenAuthority

inductive Variable where
  | host
  | port
  | keysFolder
  | keyService
  | issuer
  | policyFolder
  | shutdownTimeout
  | requestTimeout
  | keyTimeout
  | build
  | logFormat
  deriving DecidableEq, Repr

namespace Variable

def name : Variable → String
  | .host => "AUTH_HOST"
  | .port => "AUTH_PORT"
  | .keysFolder => "AUTH_KEYS_DIR"
  | .keyService => "AUTH_KMS_URL"
  | .issuer => "AUTH_ISSUER"
  | .policyFolder => "AUTH_POLICY_DIR"
  | .shutdownTimeout => "AUTH_SHUTDOWN_TIMEOUT_SECS"
  | .requestTimeout => "AUTH_REQUEST_TIMEOUT_SECS"
  | .keyTimeout => "AUTH_KEY_LOOKUP_TIMEOUT_MS"
  | .build => "AUTH_BUILD"
  | .logFormat => "LOG_FORMAT"

end Variable

inductive KeySource where
  | folder (path : String)
  | service (url : String)
  deriving DecidableEq, Repr

structure Settings where
  endpoint : Net.Endpoint
  keys : KeySource
  issuer : String
  policyFolder : Option String
  /-- In seconds. -/
  shutdownTimeout : Nat
  /-- In seconds. -/
  requestTimeout : Nat
  /-- In milliseconds. -/
  keyTimeout : Nat
  build : String
  logsJson : Bool
  deriving DecidableEq, Repr

inductive SettingsError where
  | missing (which : Variable)
  | invalid (which : Variable)
  deriving DecidableEq, Repr

namespace SettingsError

def message : SettingsError → String
  | .missing which => "missing configuration: " ++ which.name
  | .invalid which => "invalid configuration: " ++ which.name

end SettingsError

namespace Settings

def value? (source : String → Option String) (which : Variable) : Option String :=
  (source which.name).filter fun value => !Text.isBlankText value

def number (source : String → Option String) (which : Variable) (limit unset : Nat) :
    Except SettingsError Nat :=
  match value? source which with
  | none => .ok unset
  | some value =>
      match Text.decimal? limit (Text.trimChars value.toList) with
      | some number => .ok number
      | none => .error (.invalid which)

/-- The address that the host variable sets. Blanks around it are not left aside. -/
def address (source : String → Option String) : Except SettingsError Net.Address :=
  match Net.Address.parse? ((value? source .host).getD "0.0.0.0").toList with
  | some address => .ok address
  | none => .error (.invalid .host)

def requestSeconds (source : String → Option String) : Except SettingsError Nat := do
  let seconds ← number source .requestTimeout Word.size64 10
  if seconds = 0 then .error (.invalid .requestTimeout) else .ok seconds

def lowerLetter (value : Char) : Char :=
  if 65 ≤ value.toNat ∧ value.toNat ≤ 90 then Char.ofNat (value.toNat + 32) else value

def ofSource (source : String → Option String) : Except SettingsError Settings := do
  let value? := value? source
  let address ← address source
  let port ← number source .port Word.size16 6000
  let keys := match value? .keyService with
    | some url => .service url
    | none => .folder ((value? .keysFolder).getD "zarf/keys")
  let shutdownTimeout ← number source .shutdownTimeout Word.size64 20
  let requestTimeout ← requestSeconds source
  let keyTimeout ← number source .keyTimeout Word.size64 2000
  return {
    endpoint := { address, port }
    keys
    issuer := (value? .issuer).getD "service project"
    policyFolder := value? .policyFolder
    shutdownTimeout
    requestTimeout
    keyTimeout
    build := (value? .build).getD "development"
    logsJson := (value? .logFormat).any fun format =>
      format.toList.map lowerLetter == "json".toList }

end Settings

end TokenAuthority

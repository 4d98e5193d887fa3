import TokenAuthority.Server
import TokenAuthority.Service
import TokenAuthority.Settings

/-!
# What settings start

A service and a server for it. Settings count whole seconds where requests and drains are timed in
milliseconds.
-/

namespace TokenAuthority.Settings

def milliseconds (seconds : Nat) : Nat :=
  seconds * 1000

def service (settings : Settings) (engine : Token.Engine) (host : Option String) : Service where
  engine := engine
  build := settings.build
  host := host
  timeout := milliseconds settings.requestTimeout

def server (settings : Settings) : Server where
  drainTimeout := milliseconds settings.shutdownTimeout

end TokenAuthority.Settings

import TokenAuthority.Http.Status

/-!
# Failures of key lookup

Why a key cannot be had: from a directory that is being loaded, or from a service that is asked.
-/

namespace TokenAuthority.Keys

inductive ServiceFault where
  | badUrl (url : String)
  | urlWithoutPath (url : String)
  | unreachable
  | refused (status : Http.Status)
  | undecodable
  deriving DecidableEq, Repr

namespace ServiceFault

def message : ServiceFault → String
  | .badUrl url => "invalid key service url " ++ url ++ ": not an absolute url"
  | .urlWithoutPath url => "key service url cannot carry a path: " ++ url
  | .unreachable => "no answer from key service"
  | .refused status => "HTTP " ++ status.describe ++ " from key service"
  | .undecodable => "undecodable answer from key service"

end ServiceFault

inductive FileFault where
  | notText
  | notKey
  deriving DecidableEq, Repr

namespace FileFault

def message : FileFault → String
  | .notText => "file is not valid UTF-8"
  | .notKey => "unable to parse RSA private key: neither form fits"

end FileFault

inductive KeyError where
  | notFound (id : String)
  | privateKeyUnavailable (id : String)
  | unlistable (path : String)
  | unreadable (path : String)
  | emptyFile (path : String)
  | invalidKey (path : String) (fault : FileFault)
  | service (fault : ServiceFault)
  deriving DecidableEq, Repr

namespace KeyError

def message : KeyError → String
  | .notFound id => "key not found: " ++ id
  | .privateKeyUnavailable id => "private key not available for: " ++ id
  | .unlistable path => "unable to read keys directory " ++ path ++ ": cannot be listed"
  | .unreadable path => "unable to read key file " ++ path ++ ": cannot be read"
  | .emptyFile path => "key file is empty: " ++ path
  | .invalidKey path fault => "invalid key in " ++ path ++ ": " ++ fault.message
  | .service fault => "key service request failed: " ++ fault.message

end KeyError

end TokenAuthority.Keys

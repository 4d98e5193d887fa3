import TokenAuthority.FileTree
import TokenAuthority.Policy.Evaluation
import TokenAuthority.Policy.Reading

/-!
# The two policies

A token authority asks two modules: one whether a token is authentic, one whether a bearer may act.
Both are built in, and a folder may hold a replacement for either.
-/

namespace TokenAuthority.Policy

/-! ## Built-in modules -/

def authenticationSource : String :=
  "\x7b\"package\":\"gatekeeper.authentication\",\"rules\":\x7b\"authenticate\":\x7b\"jwt_verify\":" ++
  "\x7b\"token\":\x7b\"input\":\"token\"\x7d,\"key\":\x7b\"input\":\"key\"\x7d," ++
  "\"issuer\":\x7b\"input\":\"issuer\"\x7d\x7d\x7d\x7d\x7d"

def authorizationSource : String :=
  "\x7b\"package\":\"gatekeeper.authorization\"," ++
  "\"let\":\x7b\"role_admin\":\"ADMIN\",\"role_user\":\"USER\",\"role_all\":[\"ADMIN\",\"USER\"]\x7d," ++
  "\"rules\":\x7b" ++
  "\"rule_any\":\x7b\"intersects\":\x7b\"set\":\x7b\"input\":\"roles\"\x7d," ++
  "\"values\":\x7b\"var\":\"role_all\"\x7d\x7d\x7d," ++
  "\"rule_admin_only\":\x7b\"contains\":\x7b\"set\":\x7b\"input\":\"roles\"\x7d," ++
  "\"value\":\x7b\"var\":\"role_admin\"\x7d\x7d\x7d," ++
  "\"rule_user_only\":\x7b\"contains\":\x7b\"set\":\x7b\"input\":\"roles\"\x7d," ++
  "\"value\":\x7b\"var\":\"role_user\"\x7d\x7d\x7d," ++
  "\"rule_admin_or_subject\":\x7b\"any\":[\x7b\"rule\":\"rule_admin_only\"\x7d," ++
  "\x7b\"all\":[\x7b\"rule\":\"rule_any\"\x7d,\x7b\"non_empty\":\x7b\"input\":\"subject\"\x7d\x7d," ++
  "\x7b\"eq\":[\x7b\"input\":\"subject\"\x7d,\x7b\"input\":\"user_id\"\x7d]\x7d]\x7d]\x7d\x7d\x7d"

structure PolicySet where
  authentication : Module
  authorization : Module

/-! ## Loading -/

inductive SetError where
  | load (fault : LoadError)
  | unreadable (path : String)
  deriving DecidableEq, Repr

namespace SetError

def message : SetError → String
  | .load fault => "policy module failed to load: " ++ fault.message
  | .unreadable path => "unable to read policy module " ++ path ++ ": not a text file"

end SetError

namespace PolicySet

private def parse (source : String) : Except SetError Module :=
  (Module.parse source).mapError .load

def ofSources (authentication authorization : String) : Except SetError PolicySet := do
  return { authentication := ← parse authentication, authorization := ← parse authorization }

def builtin : Except SetError PolicySet :=
  ofSources authenticationSource authorizationSource

def authenticationFile : String := "authentication.json"

def authorizationFile : String := "authorization.json"

def replacement? (path : String) : Option FileTree → Except SetError (Option String)
  | none => .ok none
  | some (.file content) =>
      match Text.decode? content with
      | some source => .ok (some source)
      | none => .error (.unreadable path)
  | some _ => .error (.unreadable path)

def replacements (root : String) (folder : FileTree) :
    Except SetError (Option String × Option String) := do
  let read := fun name => replacement? (FileTree.join root name) (folder.find? [name])
  return (← read authenticationFile, ← read authorizationFile)

/-- The modules of a folder, with the built-in one for each that it does not hold, and how many it
holds. Both are read before either is understood. -/
def ofFolder (root : String) (folder : FileTree) : Except SetError (PolicySet × Nat) := do
  let (authentication, authorization) ← replacements root folder
  let policies ← ofSources (authentication.getD authenticationSource)
    (authorization.getD authorizationSource)
  return (policies, authentication.toList.length + authorization.toList.length)

end PolicySet

end TokenAuthority.Policy

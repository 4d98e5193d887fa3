import TokenAuthority.Delayed
import TokenAuthority.Keys.Error

/-!
# Key lookup

Where keys are to be had, all that a token engine knows about it. An answer may take its time.
-/

namespace TokenAuthority.Keys

structure Lookup where
  privateKey : (id : String) → Delayed (Except KeyError String)
  publicKey : (id : String) → Delayed (Except KeyError String)

def Lookup.silent : Lookup where
  privateKey _ := .never
  publicKey _ := .never

end TokenAuthority.Keys

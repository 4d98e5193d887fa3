import TokenAuthority.Crypto.Armor
import TokenAuthority.Crypto.Rsa
import TokenAuthority.Keys.Error

/-!
# Key material

An armoured private key under an id, and the armoured public key that belongs to it. The private key
is held as the text it came in; the public key is derived from it.
-/

namespace TokenAuthority.Keys

open Crypto (Armor)
open Crypto.Rsa (PrivateKey PublicKey)

/-- Whether the numbers of a key belong together: the exponents undo each other modulo each prime
less one. -/
def belongs (key : PrivateKey) : Bool :=
  key.publicExponent < key.modulus && key.modulus % 2 == 1 && key.publicExponent % 2 == 1 &&
    2 ≤ key.publicExponent && key.publicExponent < 8589934592 &&
    1 < key.firstPrime && 1 < key.secondPrime && key.isConsistent

def readPrivate (armored : String) : Except FileFault PrivateKey :=
  let bare := (Armor.readStrict? "RSA PRIVATE KEY" armored).bind PrivateKey.ofBytes?
  let contained := (Armor.readStrict? "PRIVATE KEY" armored).bind PrivateKey.ofTagged?
  match bare.or contained with
  | some key => if belongs key then .ok key else .error .notKey
  | none => .error .notKey

def writePublic (key : PublicKey) : String :=
  Armor.write { label := "PUBLIC KEY", content := key.writeTagged }

structure Material where
  id : String
  privateText : String
  publicText : String
  deriving DecidableEq, Repr

def Material.ofPrivate (id privateText : String) : Except FileFault Material :=
  (readPrivate privateText).map fun key =>
    { id, privateText, publicText := writePublic key.publicKey }

end TokenAuthority.Keys

import TokenAuthority.Crypto.Der
import TokenAuthority.Crypto.Sha256

/-!
# RSA signatures

A signature of a message is the power, to the private exponent, of a number that holds the digest of
the message; raised to the public exponent it gives that number back. Signing is deterministic: a
key and a message have one signature.
-/

namespace TokenAuthority.Crypto.Rsa

/-! ## Powers -/

def power (base exponent modulus : Nat) : Nat :=
  (List.range (exponent.log2 + 1)).foldr
    (fun place power =>
      let square := power * power % modulus
      if exponent.testBit place then square * base % modulus else square)
    (1 % modulus)

example : power 3 5 100 = 43 := by decide

/-! ## Keys -/

structure PublicKey where
  modulus : Nat
  exponent : Nat
  deriving DecidableEq, Repr

/-- A private key of two primes, with the numbers that make signing faster: the exponent modulo
each prime less one, and the inverse of the second prime modulo the first. -/
structure PrivateKey where
  modulus : Nat
  publicExponent : Nat
  privateExponent : Nat
  firstPrime : Nat
  secondPrime : Nat
  firstExponent : Nat
  secondExponent : Nat
  coefficient : Nat
  deriving DecidableEq, Repr

def bitLength (value : Nat) : Nat :=
  if value = 0 then 0 else value.log2 + 1

namespace PublicKey

def size (key : PublicKey) : Nat :=
  (bitLength key.modulus + 7) / 8

def isUsable (key : PublicKey) : Bool :=
  let length := bitLength key.modulus
  2048 ≤ length && length ≤ 8192 && key.modulus % 2 == 1 && key.exponent % 2 == 1 &&
    3 ≤ key.exponent && bitLength key.exponent ≤ 33

end PublicKey

namespace PrivateKey

def publicKey (key : PrivateKey) : PublicKey where
  modulus := key.modulus
  exponent := key.publicExponent

def isConsistent (key : PrivateKey) : Bool :=
  key.firstPrime * key.secondPrime == key.modulus &&
    key.privateExponent * key.publicExponent % (key.firstPrime - 1) == 1 &&
    key.privateExponent * key.publicExponent % (key.secondPrime - 1) == 1

/-- Whether the key signs: it belongs to a usable public key, and every number in it is right. -/
def isUsable (key : PrivateKey) : Bool :=
  key.publicKey.isUsable && key.isConsistent && key.privateExponent < key.modulus &&
    key.firstExponent == key.privateExponent % (key.firstPrime - 1) &&
    key.secondExponent == key.privateExponent % (key.secondPrime - 1) &&
    key.coefficient < key.firstPrime &&
    key.coefficient * key.secondPrime % key.firstPrime == 1

end PrivateKey

/-! ## Signatures -/

def digestHeader : List UInt8 :=
  [0x30, 0x31, 0x30, 0x0d, 0x06, 0x09, 0x60, 0x86, 0x48, 0x01, 0x65, 0x03, 0x04, 0x02, 0x01, 0x05,
   0x00, 0x04, 0x20]

def paddedDigest (size : Nat) (message : List UInt8) : List UInt8 :=
  let content := digestHeader ++ Sha256.digest message
  0x00 :: 0x01 :: List.replicate (size - content.length - 3) 0xFF ++ 0x00 :: content

def bytesOfSize (size value : Nat) : List UInt8 :=
  let bytes := Der.bytesOfNat value
  List.replicate (size - bytes.length) 0 ++ bytes

def sign (key : PrivateKey) (message : List UInt8) : List UInt8 :=
  let size := key.publicKey.size
  bytesOfSize size
    (power (Der.natOf (paddedDigest size message)) key.privateExponent key.modulus)

def verify (key : PublicKey) (message signature : List UInt8) : Bool :=
  let value := Der.natOf signature
  key.isUsable && signature.length == key.size && value < key.modulus &&
    power value key.exponent key.modulus == Der.natOf (paddedDigest key.size message)

/-! ## Keys as documents -/

def objectId : List Nat := [1, 2, 840, 113549, 1, 1, 1]

def objectIdContent : List UInt8 := [0x2a, 0x86, 0x48, 0x86, 0xf7, 0x0d, 0x01, 0x01, 0x01]

/-- Public keys have another object id, 2.5.8.1.1, that is rarely seen. -/
def rareIdContent : List UInt8 := [0x55, 0x08, 0x01, 0x01]

def algorithm : List UInt8 :=
  Der.write Der.Tag.objectId objectIdContent ++ Der.write Der.Tag.null []

namespace PublicKey

def write (key : PublicKey) : List UInt8 :=
  Der.write Der.Tag.sequence (Der.writeNat key.modulus ++ Der.writeNat key.exponent)

def writeTagged (key : PublicKey) : List UInt8 :=
  Der.write Der.Tag.sequence
    (Der.write Der.Tag.sequence algorithm ++ Der.write Der.Tag.bits (0 :: key.write))

def ofBytes? (bytes : List UInt8) : Option PublicKey := do
  let (numbers, rest) ← Der.nats? 2 (← Der.onlyItem? Der.Tag.sequence bytes)
  match numbers, rest with
  | [modulus, exponent], [] => some { modulus, exponent }
  | _, _ => none

def ofTagged? (bytes : List UInt8) : Option PublicKey := do
  let (tag, rest) ← Der.item? Der.Tag.sequence (← Der.onlyItem? Der.Tag.sequence bytes)
  let (id, _) ← Der.item? Der.Tag.objectId tag
  if id = objectIdContent ∨ id = rareIdContent then
    match ← Der.onlyItem? Der.Tag.bits rest with
    | unused :: key => if unused = 0 then ofBytes? key else none
    | [] => none
  else none

def ofEither? (bytes : List UInt8) : Option PublicKey :=
  (ofBytes? bytes).or (ofTagged? bytes)

end PublicKey

namespace PrivateKey

/-- The numbers of a key in a sequence behind its version, which is zero for two primes. -/
def ofBytes? (bytes : List UInt8) : Option PrivateKey := do
  let (numbers, rest) ← Der.nats? 9 (← Der.onlyItem? Der.Tag.sequence bytes)
  match numbers, rest with
  | [0, modulus, publicExponent, privateExponent, firstPrime, secondPrime, firstExponent,
      secondExponent, coefficient], [] =>
      some { modulus, publicExponent, privateExponent, firstPrime, secondPrime, firstExponent,
             secondExponent, coefficient }
  | _, _ => none

/-- What stands behind the key in a container: other options than the public key, which is option
one. A container has it if and only if its version is one. -/
def areExtensions (version : Nat) (bytes : List UInt8) : Bool :=
  match Der.behindOptionsBelow? 1 bytes.length bytes with
  | none => false
  | some rest =>
      if rest.head?.any fun tag => Der.Tag.isOption tag && tag.toNat % 32 == 1 then
        match Der.item? Der.Tag.publicKey rest with
        | some (0 :: _, rest) => version == 1 && Der.areOptions rest.length rest
        | _ => false
      else version == 0 && Der.areOptions rest.length rest

def ofTagged? (bytes : List UInt8) : Option PrivateKey := do
  let (version, rest) ← Der.nat? (← Der.onlyItem? Der.Tag.sequence bytes)
  let (tag, rest) ← Der.item? Der.Tag.sequence rest
  let (key, rest) ← Der.item? Der.Tag.octets rest
  if tag = algorithm ∧ areExtensions version rest then ofBytes? key else none

end PrivateKey

end TokenAuthority.Crypto.Rsa

/-!
# SHA-256

The digest of a message of bytes. The message is padded to whole blocks of 64 bytes; each block is
spread over 64 words and mixed into a state of eight words, one word a round.
-/

namespace TokenAuthority.Crypto.Sha256

structure State where
  a : UInt32
  b : UInt32
  c : UInt32
  d : UInt32
  e : UInt32
  f : UInt32
  g : UInt32
  h : UInt32
  deriving DecidableEq, Repr

def State.initial : State :=
  ⟨0x6a09e667, 0xbb67ae85, 0x3c6ef372, 0xa54ff53a, 0x510e527f, 0x9b05688c, 0x1f83d9ab, 0x5be0cd19⟩

def roundConstants : List UInt32 :=
  [0x428a2f98, 0x71374491, 0xb5c0fbcf, 0xe9b5dba5, 0x3956c25b, 0x59f111f1, 0x923f82a4, 0xab1c5ed5,
   0xd807aa98, 0x12835b01, 0x243185be, 0x550c7dc3, 0x72be5d74, 0x80deb1fe, 0x9bdc06a7, 0xc19bf174,
   0xe49b69c1, 0xefbe4786, 0x0fc19dc6, 0x240ca1cc, 0x2de92c6f, 0x4a7484aa, 0x5cb0a9dc, 0x76f988da,
   0x983e5152, 0xa831c66d, 0xb00327c8, 0xbf597fc7, 0xc6e00bf3, 0xd5a79147, 0x06ca6351, 0x14292967,
   0x27b70a85, 0x2e1b2138, 0x4d2c6dfc, 0x53380d13, 0x650a7354, 0x766a0abb, 0x81c2c92e, 0x92722c85,
   0xa2bfe8a1, 0xa81a664b, 0xc24b8b70, 0xc76c51a3, 0xd192e819, 0xd6990624, 0xf40e3585, 0x106aa070,
   0x19a4c116, 0x1e376c08, 0x2748774c, 0x34b0bcb5, 0x391c0cb3, 0x4ed8aa4a, 0x5b9cca4f, 0x682e6ff3,
   0x748f82ee, 0x78a5636f, 0x84c87814, 0x8cc70208, 0x90befffa, 0xa4506ceb, 0xbef9a3f7, 0xc67178f2]

def rotate (word amount : UInt32) : UInt32 :=
  (word >>> amount) ||| (word <<< (32 - amount))

/-! ## Padding -/

def bigEndian64 (value : Nat) : List UInt8 :=
  (List.range 8).map fun place => UInt8.ofNat (value / Nat.pow 256 (7 - place) % 256)

/-- The message with a one bit, zeros and its length in bits behind it: whole blocks. -/
def pad (message : List UInt8) : List UInt8 :=
  message ++ 0x80 :: List.replicate ((119 - message.length % 64) % 64) 0 ++
    bigEndian64 (8 * message.length)

/-! ## Blocks -/

/-- The words of a list of bytes, four bytes each, the highest first. -/
def words : List UInt8 → List UInt32
  | first :: second :: third :: fourth :: rest =>
      (first.toUInt32 <<< 24 ||| second.toUInt32 <<< 16 ||| third.toUInt32 <<< 8 |||
        fourth.toUInt32) :: words rest
  | _ => []

def nextWord (latest : List UInt32) : UInt32 :=
  let second := latest.getD 1 0
  let fifteenth := latest.getD 14 0
  let spreadSecond := rotate second 17 ^^^ rotate second 19 ^^^ (second >>> 10)
  let spreadFifteenth := rotate fifteenth 7 ^^^ rotate fifteenth 18 ^^^ (fifteenth >>> 3)
  spreadSecond + latest.getD 6 0 + spreadFifteenth + latest.getD 15 0

def schedule (block : List UInt8) : List UInt32 :=
  (Nat.repeat (fun latest => nextWord latest :: latest) 48 (words block).reverse).reverse

def round (state : State) (constant word : UInt32) : State :=
  let choice := (state.e &&& state.f) ^^^ (~~~state.e &&& state.g)
  let majority := (state.a &&& state.b) ^^^ (state.a &&& state.c) ^^^ (state.b &&& state.c)
  let spreadA := rotate state.a 2 ^^^ rotate state.a 13 ^^^ rotate state.a 22
  let spreadE := rotate state.e 6 ^^^ rotate state.e 11 ^^^ rotate state.e 25
  let first := state.h + spreadE + choice + constant + word
  ⟨first + spreadA + majority, state.a, state.b, state.c, state.d + first, state.e, state.f, state.g⟩

def mix (state : State) (block : List UInt8) : State :=
  let mixed := (roundConstants.zip (schedule block)).foldl
    (fun mixed pair => round mixed pair.1 pair.2) state
  ⟨state.a + mixed.a, state.b + mixed.b, state.c + mixed.c, state.d + mixed.d,
    state.e + mixed.e, state.f + mixed.f, state.g + mixed.g, state.h + mixed.h⟩

def mixBlocks : (count : Nat) → State → List UInt8 → State
  | 0, state, _ => state
  | count + 1, state, bytes => mixBlocks count (mix state (bytes.take 64)) (bytes.drop 64)

def bytesOf (word : UInt32) : List UInt8 :=
  [(word >>> 24).toUInt8, (word >>> 16).toUInt8, (word >>> 8).toUInt8, word.toUInt8]

def digest (message : List UInt8) : List UInt8 :=
  let padded := pad message
  let state := mixBlocks (padded.length / 64) State.initial padded
  [state.a, state.b, state.c, state.d, state.e, state.f, state.g, state.h].flatMap bytesOf

theorem length_digest (message : List UInt8) : (digest message).length = 32 := by
  simp [digest, bytesOf]

end TokenAuthority.Crypto.Sha256

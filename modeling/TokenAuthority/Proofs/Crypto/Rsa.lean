import Mathlib.Data.Nat.ChineseRemainder
import Mathlib.FieldTheory.Finite.Basic
import Mathlib.NumberTheory.LucasPrimality
import TokenAuthority.Crypto.Rsa
import TokenAuthority.Proofs.Crypto.Der

/-!
# Signatures verify

The power by squares is the power. A signature is valid if its number, raised to the public
exponent, is the number of the padded digest; what a key of two primes signs is valid under its
public half.
-/

namespace TokenAuthority.Crypto.Rsa

/-! ## Powers -/

theorem power_place (base exponent modulus place : Nat) :
    (let power := base ^ (exponent / 2 ^ (place + 1)) % modulus
     let square := power * power % modulus
     if exponent.testBit place then square * base % modulus else square) =
      base ^ (exponent / 2 ^ place) % modulus := by
  have halved : exponent / 2 ^ (place + 1) = exponent / 2 ^ place / 2 := by
    rw [Nat.pow_succ, Nat.div_div_eq_div_mul]
  have square : base ^ (exponent / 2 ^ (place + 1)) % modulus *
      (base ^ (exponent / 2 ^ (place + 1)) % modulus) % modulus =
        base ^ (exponent / 2 ^ place / 2 * 2) % modulus := by
    rw [halved, ← Nat.mul_mod, ← pow_add, ← two_mul, mul_comm 2]
  have whole := Nat.div_add_mod' (exponent / 2 ^ place) 2
  dsimp only
  rw [square, Nat.testBit_eq_decide_div_mod_eq]
  split
  · rename_i bit
    rw [decide_eq_true_eq] at bit
    rw [bit] at whole
    rw [Nat.mod_mul_mod, ← pow_succ, whole]
  · rename_i noBit
    rw [decide_eq_true_eq] at noBit
    have even : exponent / 2 ^ place % 2 = 0 := by omega
    rw [even, Nat.add_zero] at whole
    rw [whole]

theorem power_eq (base exponent modulus : Nat) :
    power base exponent modulus = base ^ exponent % modulus := by
  -- From the highest place down to the lowest, what is read of the exponent is its upper part.
  have places : ∀ count, (List.range count).foldr
      (fun place power =>
        let square := power * power % modulus
        if exponent.testBit place then square * base % modulus else square)
      (base ^ (exponent / 2 ^ count) % modulus) = base ^ exponent % modulus := by
    intro count
    induction count with
    | zero => simp
    | succ count induction =>
        rw [List.range_succ, List.foldr_append, List.foldr_cons, List.foldr_nil, power_place]
        exact induction
  have nothing : exponent / 2 ^ (exponent.log2 + 1) = 0 :=
    Nat.div_eq_of_lt Nat.lt_log2_self
  have all := places (exponent.log2 + 1)
  rw [nothing, pow_zero] at all
  exact all

/-! ## Valid signatures -/

/-- What makes bytes the signature of a message under a key. -/
structure IsSignature (key : PublicKey) (message signature : List UInt8) : Prop where
  usable : key.isUsable = true
  length : signature.length = key.size
  reduced : Der.natOf signature < key.modulus
  opens : Der.natOf signature ^ key.exponent % key.modulus =
    Der.natOf (paddedDigest key.size message)

theorem verify_eq_true_iff {key : PublicKey} {message signature : List UInt8} :
    verify key message signature = true ↔ IsSignature key message signature := by
  simp only [verify, power_eq, Bool.and_eq_true, beq_iff_eq, decide_eq_true_eq]
  constructor
  · intro valid
    rcases valid with ⟨⟨⟨usable, length⟩, reduced⟩, opens⟩
    exact ⟨usable, length, reduced, opens⟩
  · intro valid
    exact ⟨⟨⟨valid.usable, valid.length⟩, valid.reduced⟩, valid.opens⟩

/-! ## Sizes -/

theorem length_digestContent (message : List UInt8) :
    (digestHeader ++ Sha256.digest message).length = 51 := by
  rw [List.length_append, Sha256.length_digest]
  rfl

theorem natOf_paddedDigest_lt {size : Nat} (message : List UInt8) (large : 54 ≤ size) :
    Der.natOf (paddedDigest size message) < 256 ^ (size - 1) := by
  rw [paddedDigest, length_digestContent, List.cons_append, Der.natOf_zero_cons]
  generalize content : digestHeader ++ Sha256.digest message = bytes
  have length : bytes.length = 51 := by
    rw [← content]
    exact length_digestContent message
  have total :
      (0x01 :: List.replicate (size - 51 - 3) 0xFF ++ 0x00 :: bytes).length = size - 1 := by
    simp only [List.length_append, List.length_cons, List.length_replicate, length]
    omega
  rw [← total]
  exact Der.natOf_lt _

theorem bitLength_bounds {value : Nat} (positive : 0 < value) :
    2 ^ (bitLength value - 1) ≤ value ∧ value < 2 ^ bitLength value := by
  have nonzero : value ≠ 0 := Nat.ne_of_gt positive
  rw [bitLength, if_neg nonzero]
  exact ⟨Nat.log2_self_le nonzero, Nat.lt_log2_self⟩

theorem modulus_bounds {key : PublicKey} (usable : key.isUsable = true) :
    54 ≤ key.size ∧ 256 ^ (key.size - 1) ≤ key.modulus ∧ key.modulus < 256 ^ key.size := by
  have long : 2048 ≤ bitLength key.modulus := by
    simp only [PublicKey.isUsable, Bool.and_eq_true, decide_eq_true_eq] at usable
    omega
  have positive : 0 < key.modulus := by
    rcases Nat.eq_zero_or_pos key.modulus with zero | positive
    · rw [zero, bitLength, if_pos rfl] at long
      omega
    · exact positive
  have bounds := bitLength_bounds positive
  have base : (256 : Nat) = 2 ^ 8 := by decide
  have size : key.size = (bitLength key.modulus + 7) / 8 := rfl
  refine ⟨by omega, ?_, ?_⟩
  · rw [base, ← pow_mul]
    exact (Nat.pow_le_pow_right (by decide) (by omega)).trans bounds.1
  · rw [base, ← pow_mul]
    exact bounds.2.trans_le (Nat.pow_le_pow_right (by decide) (by omega))

theorem natOf_bytesOfSize (size value : Nat) : Der.natOf (bytesOfSize size value) = value := by
  rw [bytesOfSize, Der.natOf_replicate_zero_append, Der.natOf_bytesOfNat]

theorem length_bytesOfSize {size value : Nat} (positive : 0 < size) (small : value < 256 ^ size) :
    (bytesOfSize size value).length = size := by
  have length := Der.length_bytesOfNat_le positive small
  rw [bytesOfSize, List.length_append, List.length_replicate]
  omega

/-! ## Keys of two primes -/

/-- Modulo a prime, an exponent that leaves one when it is divided by the prime less one changes
nothing. -/
theorem pow_modEq_self {prime exponent : Nat} (isPrime : prime.Prime)
    (one : exponent % (prime - 1) = 1) (value : Nat) : value ^ exponent ≡ value [MOD prime] := by
  have whole := Nat.div_add_mod exponent (prime - 1)
  rw [one] at whole
  by_cases divides : prime ∣ value
  · have vanishes : value ≡ 0 [MOD prime] := (Nat.modEq_zero_iff_dvd).mpr divides
    have alsoVanishes : value ^ exponent ≡ 0 [MOD prime] := by
      rw [← whole]
      exact (Nat.modEq_zero_iff_dvd).mpr (dvd_pow divides (Nat.succ_ne_zero _))
    exact alsoVanishes.trans vanishes.symm
  · have coprime : value.Coprime prime := ((Nat.Prime.coprime_iff_not_dvd isPrime).mpr divides).symm
    have fermat : value ^ (prime - 1) ≡ 1 [MOD prime] := by
      rw [← Nat.totient_prime isPrime]
      exact Nat.ModEq.pow_totient coprime
    rw [← whole, pow_succ, pow_mul]
    calc (value ^ (prime - 1)) ^ (exponent / (prime - 1)) * value
        ≡ 1 ^ (exponent / (prime - 1)) * value [MOD prime] := (fermat.pow _).mul_right _
      _ = value := by rw [one_pow, one_mul]

theorem pow_pow_modEq_self {first second left right : Nat} (firstPrime : first.Prime)
    (secondPrime : second.Prime) (differ : first ≠ second)
    (firstInverse : left * right % (first - 1) = 1)
    (secondInverse : left * right % (second - 1) = 1)
    (value : Nat) : (value ^ left) ^ right ≡ value [MOD first * second] := by
  have coprime : first.Coprime second := (Nat.coprime_primes firstPrime secondPrime).mpr differ
  rw [← pow_mul]
  apply (Nat.modEq_and_modEq_iff_modEq_mul coprime).mp
  constructor
  · exact pow_modEq_self firstPrime firstInverse value
  · exact pow_modEq_self secondPrime secondInverse value

theorem isSignature_sign {key : PrivateKey} (usable : key.isUsable = true)
    (firstPrime : key.firstPrime.Prime) (secondPrime : key.secondPrime.Prime)
    (message : List UInt8) : IsSignature key.publicKey message (sign key message) := by
  simp only [PrivateKey.isUsable, PrivateKey.isConsistent, Bool.and_eq_true, beq_iff_eq,
    decide_eq_true_eq] at usable
  rcases usable with ⟨⟨⟨⟨⟨⟨publicUsable, ⟨product, firstInverse⟩, secondInverse⟩, _⟩, _⟩, _⟩, _⟩,
    coefficient⟩
  rcases modulus_bounds publicUsable with ⟨large, least, greatest⟩
  have differ : key.firstPrime ≠ key.secondPrime := by
    intro same
    rw [← same, Nat.mul_mod_left] at coefficient
    cases coefficient
  generalize isDigest : Der.natOf (paddedDigest key.publicKey.size message) = digest
  -- The digest lies below the modulus, so reducing the powers loses nothing of it.
  have digestSmall : digest < key.modulus := by
    rw [← isDigest]
    exact (natOf_paddedDigest_lt message large).trans_le least
  have opens : (digest ^ key.privateExponent) ^ key.publicExponent ≡ digest [MOD key.modulus] := by
    rw [← product]
    exact pow_pow_modEq_self firstPrime secondPrime differ firstInverse secondInverse digest
  have reduced : digest ^ key.privateExponent % key.modulus < key.modulus :=
    Nat.mod_lt _ (Nat.zero_lt_of_lt digestSmall)
  have value : Der.natOf (sign key message) = digest ^ key.privateExponent % key.modulus := by
    rw [sign, natOf_bytesOfSize, power_eq, isDigest]
  refine ⟨publicUsable, ?_, ?_, ?_⟩
  · rw [sign, isDigest, power_eq]
    exact length_bytesOfSize (by omega) (reduced.trans greatest)
  · rw [value]
    exact reduced
  · rw [value, isDigest]
    change (digest ^ key.privateExponent % key.modulus) ^ key.publicExponent % key.modulus = digest
    rw [← Nat.pow_mod, opens, Nat.mod_eq_of_lt digestSmall]

/-! ## A key

Primes that are one above powers of two and three are easily told to be prime: some number has to
have powers that only a prime allows. -/

theorem cast_power_eq_one_iff {modulus : Nat} (large : 1 < modulus) (base exponent : Nat) :
    (base : ZMod modulus) ^ exponent = 1 ↔ power base exponent modulus = 1 := by
  rw [power_eq, ← Nat.cast_pow, ← Nat.cast_one, ZMod.natCast_eq_natCast_iff',
    Nat.mod_eq_of_lt large]

theorem prime_of_powers {twos threes base : Nat}
    (whole : power base (2 ^ twos * 3 ^ threes) (2 ^ twos * 3 ^ threes + 1) = 1)
    (half : power base (2 ^ twos * 3 ^ threes / 2) (2 ^ twos * 3 ^ threes + 1) ≠ 1)
    (third : power base (2 ^ twos * 3 ^ threes / 3) (2 ^ twos * 3 ^ threes + 1) ≠ 1) :
    (2 ^ twos * 3 ^ threes + 1).Prime := by
  have large : 1 < 2 ^ twos * 3 ^ threes + 1 := by
    have positive : 0 < 2 ^ twos * 3 ^ threes := by positivity
    omega
  refine lucas_primality _ (base : ZMod (2 ^ twos * 3 ^ threes + 1)) ?_ ?_
  · rw [Nat.add_sub_cancel, cast_power_eq_one_iff large]
    exact whole
  · intro factor isPrime divides
    rw [Nat.add_sub_cancel] at divides ⊢
    rw [ne_eq, cast_power_eq_one_iff large]
    rcases (Nat.Prime.dvd_mul isPrime).mp divides with dividesTwos | dividesThrees
    · rw [(Nat.prime_dvd_prime_iff_eq isPrime Nat.prime_two).mp
        (isPrime.dvd_of_dvd_pow dividesTwos)]
      exact half
    · rw [(Nat.prime_dvd_prime_iff_eq isPrime Nat.prime_three).mp
        (isPrime.dvd_of_dvd_pow dividesThrees)]
      exact third

/-- A key of 2049 bits. Its private exponent undoes the public one modulo a common multiple of both
primes less one. -/
def sampleKey : PrivateKey where
  modulus := (2 ^ 853 * 3 ^ 108 + 1) * (2 ^ 772 * 3 ^ 159 + 1)
  publicExponent := 65537
  privateExponent := (19801 * (2 ^ 853 * 3 ^ 159) + 1) / 65537
  firstPrime := 2 ^ 853 * 3 ^ 108 + 1
  secondPrime := 2 ^ 772 * 3 ^ 159 + 1
  firstExponent := (19801 * (2 ^ 853 * 3 ^ 159) + 1) / 65537 % (2 ^ 853 * 3 ^ 108)
  secondExponent := (19801 * (2 ^ 853 * 3 ^ 159) + 1) / 65537 % (2 ^ 772 * 3 ^ 159)
  coefficient := power (2 ^ 772 * 3 ^ 159 + 1) (2 ^ 853 * 3 ^ 108 - 1) (2 ^ 853 * 3 ^ 108 + 1)

theorem isUsable_sampleKey : sampleKey.isUsable = true := by decide +kernel

theorem prime_sampleKey : sampleKey.firstPrime.Prime ∧ sampleKey.secondPrime.Prime := by
  constructor
  · exact @prime_of_powers _ _ 5 (by decide +kernel) (by decide +kernel) (by decide +kernel)
  · exact @prime_of_powers _ _ 5 (by decide +kernel) (by decide +kernel) (by decide +kernel)

theorem isSignature_sampleKey (message : List UInt8) :
    IsSignature sampleKey.publicKey message (sign sampleKey message) :=
  isSignature_sign isUsable_sampleKey prime_sampleKey.1 prime_sampleKey.2 message

end TokenAuthority.Crypto.Rsa
